import BrokerMcp.Proof.Retry.Write
import BrokerMcp.Proof.Sempv1.ReadBack
import BrokerMcp.Proof.Sempv2.Truncated
import BrokerMcp.Sempv1.Client

namespace BrokerMcp.Proof.Sempv1
open Resilience BrokerMcp.Sempv1 BrokerMcp.Proof.Retry
open BrokerMcp.Sempv2 (maxErrorTextLen truncationMarker maxSEMPResponseBytes)
open BrokerMcp.Proof.Sempv2 (truncateErrorText_size)

section Recast

variable (method : String) (retrySafe : Bool)

def recast (state : RetryState) : RetryState := { state with method, retrySafe }

def recastTry (t : Try) : Try :=
  ⟨t.attempt, recast method retrySafe t.before,
    { t.verdict with state := recast method retrySafe t.verdict.state }, t.reauthed⟩

def recastSent (sent : Sent) : Sent :=
  ⟨sent.tries.map (recastTry method retrySafe), recast method retrySafe sent.state, sent.result⟩

def free : Prop := ((method = methodPost || method = methodPatch) && !retrySafe) = false

variable {method retrySafe}

theorem checkStatus_recast (state : RetryState) (result : AuthFailureResult) (code : Nat) :
    checkStatus (recast method retrySafe state) result code =
      { checkStatus state result code with
        state := recast method retrySafe (checkStatus state result code).state } := by
  obtain ⟨_, auth401Retried, _, _, _, _, _, _, _⟩ := state
  unfold checkStatus recast
  cases auth401Retried <;> dsimp only <;> split_ifs <;> rfl

theorem checkRetry_recast (there : free method retrySafe) (state : RetryState)
    (here : guarded state = false) (a : Attempt) :
    checkRetry (recast method retrySafe state) a =
      { checkRetry state a with state := recast method retrySafe (checkRetry state a).state } := by
  cases live : a.ctxErr with
  | some err => simp [checkRetry, live]
  | none =>
      have other : guarded (recast method retrySafe state) = false := there
      rw [checkRetry_unguarded live here, checkRetry_unguarded live other]
      cases a.outcome with
      | answered reply => exact checkStatus_recast state a.authResult reply.statusCode
      | failed resp err =>
          show (if state.retryUnsafe then _ else _) = _
          cases state.retryUnsafe <;> rfl

theorem attempted_recast (there : free method retrySafe) {state : RetryState}
    (here : guarded state = false) (a : Attempt) (reauthed : Bool) :
    attempted (recast method retrySafe state) a reauthed =
      recastTry method retrySafe (attempted state a reauthed) := by
  have verdict := checkRetry_recast there (written state a) here a
  exact congrArg (fun v => Try.mk a (recast method retrySafe (written state a)) v reauthed) verdict

theorem prepareRetry_recast (state : RetryState) (addAuth : Option Chain) :
    prepareRetry (recast method retrySafe state) addAuth =
      (recast method retrySafe (prepareRetry state addAuth).1, (prepareRetry state addAuth).2) := by
  obtain ⟨_, _, _, _, _, _, _, _, needsReauth⟩ := state
  cases needsReauth <;> rfl

theorem recastTry_retry (t : Try) :
    (recastTry method retrySafe t).verdict.retry = t.verdict.retry :=
  rfl

theorem recastTry_attempt (t : Try) : (recastTry method retrySafe t).attempt = t.attempt := rfl

theorem recastTry_state (t : Try) :
    (recastTry method retrySafe t).verdict.state = recast method retrySafe t.verdict.state := rfl

theorem retryLoop_recast (there : free method retrySafe) (attempts : Nat → Attempt) (remain i : Nat)
    (state : RetryState) (here : guarded state = false) (reauthed : Bool) :
    retryLoop attempts remain i (recast method retrySafe state) reauthed =
      recastSent method retrySafe (retryLoop attempts remain i state reauthed) := by
  induction remain generalizing i state reauthed with
  | zero =>
      obtain ⟨t, known⟩ : ∃ t, t = attempted state (attempts i) reauthed := ⟨_, rfl⟩
      have seen := attempted_recast there here (attempts i) reauthed
      rw [← known] at seen
      rw [retryLoop_zero attempts i _ reauthed _ seen.symm,
        retryLoop_zero attempts i state reauthed t known, recastTry_retry]
      cases t.verdict.retry <;> rfl
  | succ remain ih =>
      obtain ⟨t, known⟩ : ∃ t, t = attempted state (attempts i) reauthed := ⟨_, rfl⟩
      have seen := attempted_recast there here (attempts i) reauthed
      rw [← known] at seen
      have still : guarded (prepareRetry t.verdict.state t.attempt.addAuth).1 = false := by
        rw [prepareRetry_frame, known]
        exact ((checkRetry_same (written state (attempts i)) (attempts i)).1.guarded).trans here
      rw [retryLoop_succ attempts remain i _ reauthed _ seen.symm,
        retryLoop_succ attempts remain i state reauthed t known]
      simp only [recastTry_retry, recastTry_attempt, recastTry_state, prepareRetry_recast]
      cases t.verdict.retry with
      | false => rfl
      | true =>
          simp only [Bool.not_true, Bool.false_eq_true, ↓reduceIte]
          cases t.attempt.backoff with
          | some err => rfl
          | none =>
              dsimp only
              cases (prepareRetry t.verdict.state t.attempt.addAuth).2.2 with
              | some err => rfl
              | none =>
                  dsimp only
                  rw [ih (i + 1) _ still]
                  rfl

end Recast

structure Alike (sent other : Sent) : Prop where
  attempts : sent.tries.map Try.attempt = other.tries.map Try.attempt
  decisions : (sent.tries.map fun t => (t.verdict.retry, t.verdict.err, t.reauthed)) =
    other.tries.map fun t => (t.verdict.retry, t.verdict.err, t.reauthed)
  result : sent.result = other.result

theorem Alike.recast (method : String) (retrySafe : Bool) (sent : Sent) :
    Alike (recastSent method retrySafe sent) sent := by
  refine ⟨?_, ?_, rfl⟩
  · rw [recastSent, List.map_map]
    rfl
  · rw [recastSent, List.map_map]
    rfl

theorem doRequest_free {req : Request} (retryMax : Nat) {world : World}
    (here : free req.method req.retrySafe) (admitted : world.admission = none)
    (wrapped : world.wrapping = none) : ∀ sent,
      sent = retryLoop world.attempts retryMax 0 (.new req) false →
      doRequest retryMax req world =
        match sent.result with
        | .ok _ => sent
        | .error err =>
            if req.retryUnsafe then
              { sent with result := .error (err.amend fun e => { e with nonIdempotent := true }) }
            else sent := by
  rintro sent known
  have kept : sent.state = recast req.method req.retrySafe sent.state := by
    have loop := retryLoop_recast here world.attempts retryMax 0 (.new req) here false
    have same : recast req.method req.retrySafe (.new req) = .new req := rfl
    rw [← known, same, ← known] at loop
    exact congrArg Sent.state loop
  have unsent : ((sent.state.method = methodPost || sent.state.method = methodPatch) &&
      !sent.state.retrySafe) = false := by
    rw [kept]
    exact here
  cases result : sent.result with
  | ok reply => simp only [doRequest, admitted, wrapped, ← known, result]
  | error err =>
      simp only [doRequest, admitted, wrapped, ← known, result, unsent, Bool.false_and,
        Bool.or_false]

theorem doRequest_alike {req other : Request} (retryMax : Nat) (world : World)
    (here : free req.method req.retrySafe) (there : free other.method other.retrySafe)
    (marked : req.retryUnsafe = other.retryUnsafe) :
    Alike (doRequest retryMax req world) (doRequest retryMax other world) := by
  have same : RetryState.new req = recast req.method req.retrySafe (.new other) := by
    rw [RetryState.new, marked]
    rfl
  cases admitted : world.admission with
  | some err =>
      simp only [doRequest, admitted]
      exact ⟨rfl, rfl, rfl⟩
  | none =>
      cases wrapped : world.wrapping with
      | some err =>
          simp only [doRequest, admitted, wrapped]
          exact ⟨rfl, rfl, rfl⟩
      | none =>
          obtain ⟨sent, known⟩ : ∃ sent,
            sent = retryLoop world.attempts retryMax 0 (.new other) false := ⟨_, rfl⟩
          have loop := retryLoop_recast here world.attempts retryMax 0 (.new other) there false
          rw [← same, ← known] at loop
          rw [doRequest_free retryMax here admitted wrapped _ loop.symm,
            doRequest_free retryMax there admitted wrapped sent known, marked]
          have alike := Alike.recast req.method req.retrySafe sent
          rw [alike.result]
          cases sent.result with
          | ok reply => exact alike
          | error err =>
              dsimp only
              split_ifs
              · exact ⟨alike.attempts, alike.decisions, rfl⟩
              · exact alike

def methodGet : String := "GET"

theorem free_get : free methodGet false := by simp [free, methodGet, methodPost, methodPatch]

theorem free_command (c : Command) (setting : Setting) :
    free (sentRequest c.xml setting).method (sentRequest c.xml setting).retrySafe := by
  rw [sentRequest, isShowCommand_xml]
  simp [free]

/-- A command of the tools is sent as often, for the same reasons and to the same end as a `GET`. -/
theorem commands_retried (retryMax : Nat) (c : Command) (setting : Setting) :
    Alike (doRequest retryMax (sentRequest c.xml setting) setting.world)
      (doRequest retryMax ⟨methodGet, false, setting.retryUnsafe⟩ setting.world) := by
  exact doRequest_alike retryMax setting.world (free_command c setting) free_get rfl

structure Succeeds (r : RpcReply) (inner : List UInt8) : Prop where
  parsed : r.parseError = none
  permitted : r.permissionError = none
  unlimited : r.limitError = none
  executed : ∀ result, r.executeResult = some result → result.code ≠ "fail"
  rpc : r.rpc = some inner

/-- The fields of an error by its kind, in the words of the comment on its type. -/
structure Documented (body : List UInt8) (e : Error) : Prop where
  kept : e.body = body
  http : e.kind = .http → (e.statusCode < 200 ∨ 300 ≤ e.statusCode) ∧ e.message = ""
  envelope : e.kind ≠ .http → e.statusCode = 200
  reason : e.kind ≠ .executeFail → e.reasonCode = 0
  bounded : e.message.utf8ByteSize ≤ maxErrorTextLen + truncationMarker.utf8ByteSize

theorem envelopeError_documented {kind : ErrorKind} (other : kind ≠ .http) (text : String)
    (body : List UInt8) : Documented body (envelopeError kind text body) :=
  ⟨rfl, fun http => absurd http other, fun _ => rfl, fun _ => rfl, truncateErrorText_size text⟩

section Reply

variable (unmarshal : List UInt8 → Option RpcReply)

theorem parseReply_spec (body : List UInt8) :
    match parseReply unmarshal body with
    | .ok inner => ∃ r, unmarshal body = some r ∧ Succeeds r inner
    | .error e => Documented body e ∧ ∀ r inner, unmarshal body = some r → ¬ Succeeds r inner := by
  unfold parseReply
  cases unmarshal body with
  | none => exact ⟨⟨rfl, by simp, fun _ => rfl, fun _ => rfl, by simp⟩, by simp⟩
  | some r =>
      -- The error elements in the order in which the source looks for them.
      obtain ⟨rpc, result, parsed, permitted, unlimited⟩ := r
      cases parsed with
      | some text =>
          refine ⟨envelopeError_documented (by simp) text body, ?_⟩
          rintro _ _ ⟨⟩ ⟨parsed, -, -, -, -⟩
          cases parsed
      | none =>
          cases permitted with
          | some text =>
              refine ⟨envelopeError_documented (by simp) text body, ?_⟩
              rintro _ _ ⟨⟩ ⟨-, permitted, -, -, -⟩
              cases permitted
          | none =>
              cases unlimited with
              | some text =>
                  refine ⟨envelopeError_documented (by simp) text body, ?_⟩
                  rintro _ _ ⟨⟩ ⟨-, -, unlimited, -, -⟩
                  cases unlimited
              | none =>
                  cases failed : result.filter (·.code = "fail") with
                  | some failure =>
                      obtain ⟨rfl, code⟩ := Option.filter_eq_some_iff.mp failed
                      simp only [failed]
                      refine ⟨⟨rfl, by simp [envelopeError], fun _ => rfl, by simp [envelopeError],
                        truncateErrorText_size failure.reason⟩, ?_⟩
                      rintro _ _ ⟨⟩ ⟨-, -, -, executed, -⟩
                      exact executed failure rfl (by simpa using code)
                  | none =>
                      simp only [failed]
                      cases rpc with
                      | some inner =>
                          refine ⟨_, rfl, rfl, rfl, rfl, ?_, rfl⟩
                          rintro result rfl code
                          simp [code] at failed
                      | none =>
                          have short : "empty reply".utf8ByteSize ≤
                              maxErrorTextLen + truncationMarker.utf8ByteSize := by decide
                          refine ⟨⟨rfl, by simp, fun _ => rfl, fun _ => rfl, short⟩, ?_⟩
                          rintro _ _ ⟨⟩ ⟨-, -, -, -, rpc⟩
                          cases rpc

theorem parseReply_ok_iff {body inner : List UInt8} :
    parseReply unmarshal body = .ok inner ↔ ∃ r, unmarshal body = some r ∧ Succeeds r inner := by
  have spec := parseReply_spec unmarshal body
  cases parsed : parseReply unmarshal body with
  | error e =>
      rw [parsed] at spec
      refine iff_of_false (by simp) ?_
      rintro ⟨r, found, succeeds⟩
      exact spec.2 r inner found succeeds
  | ok inner' =>
      rw [parsed] at spec
      obtain ⟨r, found, succeeds⟩ := spec
      constructor
      · intro same
        obtain rfl := Except.ok.inj same
        exact ⟨r, found, succeeds⟩
      · rintro ⟨r', found', succeeds'⟩
        obtain rfl := Option.some.inj (found.symm.trans found')
        rw [Option.some.inj (succeeds.rpc.symm.trans succeeds'.rpc)]

theorem readCappedBody_ok_iff {body : Body} {limit : Nat} {content : List UInt8} :
    readCappedBody body limit = .ok content ↔
      body.content = content ∧ body.content.length ≤ limit ∧ body.broken = none := by
  unfold readCappedBody
  split_ifs with within
  · cases body.broken with
    | some err => simp
    | none => simp [within]
  · simp [within]

structure Answered (reply : Reply) (inner : List UInt8) : Prop where
  whole : reply.body.broken = none
  within : reply.body.content.length ≤ maxSEMPResponseBytes
  status : 200 ≤ reply.statusCode ∧ reply.statusCode < 300
  envelope : ∃ r, unmarshal reply.body.content = some r ∧ Succeeds r inner

theorem readReply_ok_iff {reply : Reply} {inner : List UInt8} :
    readReply unmarshal reply = .ok inner ↔ Answered unmarshal reply inner := by
  unfold readReply
  cases read : readCappedBody reply.body maxSEMPResponseBytes with
  | error err =>
      refine iff_of_false (by simp) fun answered => ?_
      rw [readCappedBody_ok_iff.mpr ⟨rfl, answered.within, answered.whole⟩] at read
      cases read
  | ok body =>
      obtain ⟨rfl, within, whole⟩ := readCappedBody_ok_iff.mp read
      dsimp only
      split_ifs with status
      · refine iff_of_false (by simp) fun answered => ?_
        have inside := answered.status
        simp only [Bool.or_eq_true, decide_eq_true_eq] at status
        omega
      · have inside : 200 ≤ reply.statusCode ∧ reply.statusCode < 300 := by
          simpa using status
        have parsed := @parseReply_ok_iff unmarshal reply.body.content inner
        constructor
        · intro same
          refine ⟨whole, within, inside, parsed.mp ?_⟩
          cases found : parseReply unmarshal reply.body.content with
          | error e => simp [found, Except.mapError] at same
          | ok inner' => simpa [found, Except.mapError] using same
        · intro answered
          rw [parsed.mpr answered.envelope]
          rfl

theorem readReply_documented {reply : Reply} {e : Error}
    (refused : readReply unmarshal reply = .error (.semp e)) : Documented reply.body.content e := by
  unfold readReply at refused
  cases read : readCappedBody reply.body maxSEMPResponseBytes with
  | error err => simp [read] at refused
  | ok body =>
      obtain ⟨rfl, -, -⟩ := readCappedBody_ok_iff.mp read
      rw [read] at refused
      dsimp only at refused
      split_ifs at refused with status
      · obtain rfl : _ = e := by simpa using refused
        exact ⟨rfl, fun _ => ⟨by simpa using status, rfl⟩, by simp, fun _ => rfl, by simp⟩
      · have spec := parseReply_spec unmarshal reply.body.content
        cases found : parseReply unmarshal reply.body.content with
        | ok inner => simp [found, Except.mapError] at refused
        | error e' =>
            rw [found] at spec refused
            obtain rfl : e' = e := by simpa [Except.mapError] using refused
            exact spec.1

structure ReadAs (read : Sent) (ran : Executed) : Prop where
  attempts : ran.tries.map Try.attempt = read.tries.map Try.attempt
  answered : ∀ inner, ran.result = .ok inner ↔
    ∃ reply, read.result = .ok reply ∧ Answered unmarshal reply inner
  refused : ∀ e, ran.result = .error (.semp e) →
    ∃ reply, read.result = .ok reply ∧ Documented reply.body.content e
  unanswered : ∀ err, read.result = .error err →
    ran.result = .error (.chain (.text "executing SEMPv1 request" :: err))

/-- A command that can be built and authorised returns the inner XML of the reply that ends the attempts
of a `GET`, and otherwise an error of the documented form about that reply. -/
theorem commands_answered (retryMax : Nat) (c : Command) (setting : Setting)
    (built : setting.buildRequest = none) (authed : setting.addAuth = none) :
    ReadAs unmarshal (doRequest retryMax ⟨methodGet, false, setting.retryUnsafe⟩ setting.world)
      (execute unmarshal retryMax c.xml setting) := by
  obtain ⟨attempts, -, result⟩ :=
    @doRequest_alike (sentRequest c.xml setting) ⟨methodGet, false, setting.retryUnsafe⟩ retryMax
      setting.world (free_command c setting) free_get rfl
  have full : c.xml ≠ "" := by
    intro empty
    have shown := isShowCommand_xml c
    rw [empty] at shown
    revert shown
    decide
  unfold execute
  rw [if_neg full, built, authed]
  dsimp only
  rw [result]
  cases ended : (doRequest retryMax ⟨methodGet, false, setting.retryUnsafe⟩ setting.world).result with
  | error err => exact ⟨attempts, by simp [ended], by simp, by simp [ended]⟩
  | ok reply =>
      refine ⟨attempts, ?_, ?_, by simp [ended]⟩
      · intro inner
        simpa [ended] using readReply_ok_iff unmarshal
      · intro e refused
        exact ⟨reply, ended, readReply_documented unmarshal refused⟩

end Reply

end BrokerMcp.Proof.Sempv1
