import BrokerMcp.Proof.Composite.Arguments
import BrokerMcp.Proof.Retry.Replayed
import BrokerMcp.Tools.Manager

namespace BrokerMcp.Proof.Tools
open Resilience BrokerMcp.Composite BrokerMcp.Tools Composite Retry

/-! ## Errors without a reply of the broker -/

def Unsaid (err : Chain) : Prop := err.findSome? Link.semp? = none

theorem Unsaid.cons {link : Link} {err : Chain} (plain : Link.semp? link = none)
    (unsaid : Unsaid err) : Unsaid (link :: err) := by
  unfold Unsaid at unsaid ⊢
  rw [List.findSome?_cons, plain]
  exact unsaid

theorem Unsaid.foreign (err : List Foreign) : Unsaid (err.map .foreign) := by
  unfold Unsaid
  rw [List.findSome?_eq_none_iff]
  intro link member
  obtain ⟨cause, -, rfl⟩ := List.mem_map.mp member
  rfl

theorem Unsaid.amend {f : RetriesExhaustedError → RetriesExhaustedError} {err : Chain}
    (unsaid : Unsaid err) : Unsaid (err.amend f) := by
  induction err with
  | nil => exact unsaid
  | cons link rest ih =>
      unfold Unsaid at unsaid ih
      rw [List.findSome?_cons] at unsaid
      cases plain : Link.semp? link with
      | some e => simp [plain] at unsaid
      | none =>
          rw [plain] at unsaid
          cases link with
          | retriesExhausted e => exact .cons rfl unsaid
          | semp e => cases plain
          | _ => exact .cons rfl (ih unsaid)

theorem errorHandler_unsaid {resp : Option Reply} {err : Option Chain} {n : Nat}
    (unsaid : ∀ e, err = some e → Unsaid e) : Unsaid (errorHandler resp err n) := by
  cases err with
  | some err =>
      obtain ⟨e, shape⟩ := errorHandler_some resp err n
      rw [shape]
      exact .cons rfl (unsaid err rfl)
  | none => cases resp <;> rfl

theorem checkStatus_unsaid {state : RetryState} {result : AuthFailureResult} {code : Nat}
    {err : Chain} (failed : (checkStatus state result code).err = some err) : Unsaid err := by
  unfold checkStatus at failed
  dsimp only at failed
  split_ifs at failed <;> cases failed <;> rfl

theorem checkRetry_unsaid {state : RetryState} {a : Attempt} {err : Chain}
    (failed : (checkRetry state a).err = some err) : Unsaid err := by
  unfold checkRetry at failed
  split at failed
  · obtain rfl := Option.some.inj failed
    rfl
  · split at failed
    · split at failed
      · cases failed
      · split at failed <;> cases failed
        rfl
    · split at failed
      · split at failed
        · cases failed
        · obtain ⟨causes, -, rfl⟩ := Option.map_eq_some_iff.mp failed
          exact .foreign causes
      · exact checkStatus_unsaid failed

theorem finish_unsaid {a : Attempt} {retry : Bool} {prepareErr checkErr : Option Chain} {n : Nat}
    {err : Chain} (prepare : ∀ e, prepareErr = some e → Unsaid e)
    (check : ∀ e, checkErr = some e → Unsaid e)
    (failed : finish a retry prepareErr checkErr n = .error err) : Unsaid err := by
  have either : ∀ e, (prepareErr <|> checkErr) = some e → Unsaid e := by
    intro e found
    cases prepareErr with
    | some e' => exact prepare e found
    | none => exact check e found
  unfold finish at failed
  split at failed
  · split_ifs at failed
    obtain rfl := Except.error.inj failed
    exact errorHandler_unsaid either
  · obtain rfl := Except.error.inj failed
    refine errorHandler_unsaid fun e found => ?_
    cases prepareErr with
    | some e' => exact prepare e found
    | none =>
        cases checkErr with
        | some e' => exact check e found
        | none =>
            obtain rfl := Option.some.inj found
            exact .foreign _

section Failure

variable {attempts : Nat → Attempt} (quiet : ∀ n err, (attempts n).addAuth = some err → Unsaid err)
include quiet

theorem retryLoop_unsaid {remain i : Nat} {state : RetryState} {reauthed : Bool} {err : Chain}
    (failed : (retryLoop attempts remain i state reauthed).result = .error err) : Unsaid err := by
  induction remain generalizing i state reauthed with
  | zero =>
      rw [retryLoop_zero attempts i state reauthed _ rfl] at failed
      split_ifs at failed
      all_goals exact finish_unsaid (by simp) (fun _ => checkRetry_unsaid) failed
  | succ remain ih =>
      rw [retryLoop_succ attempts remain i state reauthed _ rfl] at failed
      split_ifs at failed
      · exact finish_unsaid (by simp) (fun _ => checkRetry_unsaid) failed
      · split at failed
        · obtain rfl := Except.error.inj failed
          rfl
        · dsimp only at failed
          split at failed
          · rename_i prepared
            refine finish_unsaid (fun e found => ?_) (fun _ => checkRetry_unsaid) failed
            obtain rfl := Option.some.inj found
            unfold prepareRetry at prepared
            split_ifs at prepared
            exact quiet i _ prepared
          · exact ih failed

end Failure

/-! ## The error that reaches the classification -/

structure Quiet (setting : Sempv2.Setting) : Prop where
  buildURL : ∀ err, setting.buildURL = some err → Unsaid err
  buildRequest : ∀ err, setting.buildRequest = some err → Unsaid err
  addAuth : ∀ err, setting.addAuth = some err → Unsaid err
  wrapping : ∀ err, setting.world.wrapping = some err → Unsaid err
  reauth : ∀ n err, (setting.world.attempts n).addAuth = some err → Unsaid err

theorem doRequest_unsaid {retryMax : Nat} {req : Request} {world : World} {err : Chain}
    (wrapping : ∀ err, world.wrapping = some err → Unsaid err)
    (reauth : ∀ n err, (world.attempts n).addAuth = some err → Unsaid err)
    (failed : (doRequest retryMax req world).result = .error err) : Unsaid err := by
  unfold doRequest at failed
  dsimp only at failed
  split at failed
  · rename_i refused _
    obtain rfl := Except.error.inj failed
    cases refused <;> rfl
  · rename_i cause _ wrapped
    obtain rfl := Except.error.inj failed
    exact .cons rfl (wrapping _ wrapped)
  · split at failed
    · rename_i ok
      cases ok.symm.trans failed
    · rename_i cause looped
      have plain := retryLoop_unsaid reauth looped
      split_ifs at failed
      · obtain rfl := Except.error.inj failed
        exact plain.amend
      · obtain rfl := Except.error.inj (looped.symm.trans failed)
        exact plain

theorem readCappedBody_unsaid {body : Body} {limit : Nat} {err : Chain}
    (failed : readCappedBody body limit = .error err) : Unsaid err := by
  unfold readCappedBody at failed
  split at failed
  · split at failed
    · obtain rfl := Except.error.inj failed
      exact .cons rfl (.foreign _)
    · cases failed
  · obtain rfl := Except.error.inj failed
    rfl

def Refuses (json : Sempv2.Decoder Object) (op : Sempv2.Operation) (reply : Reply) (e : SEMPError) :
    Prop :=
  ∃ body, readCappedBody reply.body Sempv2.maxSEMPResponseBytes = .ok body ∧
    ¬ (200 ≤ reply.statusCode ∧ reply.statusCode < 300) ∧
    e = Sempv2.parseSEMPError json op.id reply.statusCode body

theorem readReply_semp {json : Sempv2.Decoder Object} {op : Sempv2.Operation} {reply : Reply}
    {e : SEMPError} :
    (∃ err, Sempv2.readReply json op reply = .error err ∧ err.findSome? Link.semp? = some e) ↔
      Refuses json op reply e := by
  unfold Sempv2.readReply Refuses
  cases read : readCappedBody reply.body Sempv2.maxSEMPResponseBytes with
  | error err =>
      have plain := readCappedBody_unsaid read
      constructor
      · rintro ⟨shown, same, found⟩
        obtain rfl := Except.error.inj same
        have unsaid : Unsaid (.text s!"reading response for {op.id}" ::
            if (op.method = methodPost || op.method = methodPatch) then
              .retriesExhausted ⟨reply.statusCode, 1, true, [], ""⟩ :: err
            else err) := by
          apply Unsaid.cons rfl
          split_ifs
          · exact .cons rfl plain
          · exact plain
        cases unsaid.symm.trans found
      · rintro ⟨body, nope, -⟩
        cases nope
  | ok body =>
      by_cases success : 200 ≤ reply.statusCode ∧ reply.statusCode < 300
      · have inside : ¬ (decide (reply.statusCode < 200) || decide (reply.statusCode ≥ 300)) = true := by
          simpa using success
        simp only [inside, Bool.false_eq_true, ↓reduceIte]
        constructor
        · rintro ⟨err, same, found⟩
          cases decoded : json.data body with
          | error cause =>
              rw [decoded] at same
              obtain rfl := Except.error.inj same
              cases found
          | ok data =>
              rw [decoded] at same
              cases same
        · rintro ⟨_, -, failure, -⟩
          exact absurd success failure
      · have outside : (decide (reply.statusCode < 200) || decide (reply.statusCode ≥ 300)) = true := by
          simp only [Bool.or_eq_true, decide_eq_true_eq]
          omega
        simp only [outside, ↓reduceIte]
        constructor
        · rintro ⟨err, same, found⟩
          obtain rfl := Except.error.inj same
          exact ⟨body, rfl, success, (Option.some.inj found).symm⟩
        · rintro ⟨body', same, -, rfl⟩
          obtain rfl := Except.ok.inj same
          exact ⟨_, rfl, rfl⟩

theorem doRequest_ok_iff (retryMax : Nat) (req : Request) (world : World) (reply : Reply) (n : Nat) :
    (doRequest retryMax req world).result = .ok reply ∧
        (doRequest retryMax req world).tries.length = n + 1 ↔
      World.reached world = true ∧ Answers world.attempts retryMax 0 (.new req) n reply := by
  rw [doRequest_tries]
  cases reached : World.reached world with
  | false => simp
  | true =>
      rw [doRequest_result reached rfl, if_pos rfl, ← retryLoop_ok_iff false,
        Nat.zero_add]
      cases (retryLoop world.attempts retryMax 0 (.new req) false).result with
      | ok reply' => simp
      | error err =>
          dsimp only
          split_ifs <;> simp

section Execute

variable {json : Sempv2.Decoder Object} {retryMax : Nat} {op : Sempv2.Operation} {marked : Bool}
  {setting : Sempv2.Setting}

variable (json retryMax op marked) in
theorem execute_semp_iff (quiet : Quiet setting) (e : SEMPError) (n : Nat) :
    ((∃ err, (Sempv2.execute json retryMax op false marked setting).result = .error err ∧
        err.findSome? Link.semp? = some e) ∧
      (Sempv2.execute json retryMax op false marked setting).tries.length = n + 1) ↔
    Sends setting ∧ ∃ reply, Answers setting.world.attempts retryMax 0
      (.new ⟨op.method, false, marked⟩) n reply ∧ Refuses json op reply e := by
  have stop {tries : List Try} {err : Chain} (unsaid : Unsaid err) :
      ¬ ((∃ shown, (Except.error err : Except Chain (Sempv2.Result Object)) = .error shown ∧
        shown.findSome? Link.semp? = some e) ∧ tries.length = n + 1) := by
    rintro ⟨⟨shown, same, found⟩, -⟩
    obtain rfl := Except.error.inj same
    cases unsaid.symm.trans found
  unfold Sempv2.execute
  cases url : setting.buildURL with
  | some err =>
      exact iff_of_false (stop (quiet.buildURL err url))
        fun handed => nomatch url.symm.trans handed.1.url
  | none =>
      cases request : setting.buildRequest with
      | some err =>
          exact iff_of_false (stop (.cons rfl (quiet.buildRequest err request)))
            fun handed => nomatch request.symm.trans handed.1.request
      | none =>
          cases auth : setting.addAuth with
          | some err =>
              exact iff_of_false (stop (.cons rfl (quiet.addAuth err auth)))
                fun handed => nomatch auth.symm.trans handed.1.auth
          | none =>
              have sent (reply : Reply) := doRequest_ok_iff retryMax ⟨op.method, false, marked⟩
                setting.world reply n
              dsimp only
              cases result : (doRequest retryMax ⟨op.method, false, marked⟩ setting.world).result with
              | error err =>
                  have plain := doRequest_unsaid quiet.wrapping quiet.reauth result
                  refine iff_of_false (stop (.cons rfl plain.amend)) ?_
                  rintro ⟨handed, reply, answers, -⟩
                  cases result.symm.trans ((sent reply).mpr ⟨handed.reached, answers⟩).1
              | ok reply =>
                  dsimp only
                  rw [readReply_semp]
                  constructor
                  · rintro ⟨refuses, count⟩
                    obtain ⟨reached, answers⟩ := (sent reply).mp ⟨result, count⟩
                    exact ⟨⟨url, request, auth, reached⟩, reply, answers, refuses⟩
                  · rintro ⟨handed, reply', answers, refuses⟩
                    obtain ⟨result', count⟩ := (sent reply').mpr ⟨handed.reached, answers⟩
                    obtain rfl := Except.ok.inj (result.symm.trans result')
                    exact ⟨refuses, count⟩

end Execute

/-! ## The report -/

structure DeleteTool (ce : CompositeExecutor) (tool : CompositeTool) (step : Step) (op : Operation) :
    Prop where
  steps : tool.steps = [step]
  operation : ce.operations.lookup step.operation = some op
  named : hasPrefix op.id "delete" = true
  method : op.method = "DELETE"
  onePage : step.followPages = false
  required : step.optionalArgs = []
  noBody : op.hasBody = false

def ReportsAbsent (reply : ToolReply) : Prop :=
  ∃ content, reply.content = some content ∧ content.str? "outcome" = some "already_absent" ∧
    content.lookup "changed" = some (.bool false)

def SaysAbsent (json : Sempv2.Decoder Object) (op : Operation) (reply : Reply) : Prop :=
  ∃ e, Refuses json op.toOperation reply e ∧ isNotFoundOnDelete e = true ∧
    ¬ (e.sempCode = sempCodePermissionDenied ∧ e.statusCode ≠ 401)

theorem isSEMPStatus_exclusive {e : SEMPError} (gone : isSEMPStatus e "NOT_FOUND" 6 = true) :
    isSEMPStatus e "ALREADY_EXISTS" 10 = false := by
  unfold isSEMPStatus at gone ⊢
  split_ifs at gone ⊢ with named
  · rw [decide_eq_true_eq] at gone
    rw [gone]
    rfl
  · rw [decide_eq_true_eq] at gone
    rw [gone]
    rfl

theorem classify_absent_iff {err : Chain} {outcome : DesiredStateOutcome} :
    (classifyDesiredStateOutcome err = some outcome ∧ outcome.outcome = .alreadyAbsent) ↔
      ∃ e, err.findSome? Link.semp? = some e ∧ isNotFoundOnDelete e = true ∧
        outcome = ⟨.alreadyAbsent, e.sempCode, e.sempStatus, e.operation⟩ := by
  unfold classifyDesiredStateOutcome
  cases err.findSome? Link.semp? with
  | none => simp
  | some e =>
      dsimp only
      constructor
      · rintro ⟨classified, absent⟩
        split_ifs at classified with exists_ gone
        · obtain rfl := Option.some.inj classified
          cases absent
        · obtain rfl := Option.some.inj classified
          exact ⟨e, rfl, gone, rfl⟩
      · rintro ⟨e', same, gone, rfl⟩
        obtain rfl := Option.some.inj same
        have absent : isSEMPStatus e "ALREADY_EXISTS" 10 = false :=
          isSEMPStatus_exclusive (Bool.and_eq_true_iff.mp gone).1
        simp [absent, gone]

section Report

variable {ce : CompositeExecutor} {host : Host} {json : Sempv2.Decoder Object} {retryMax : Nat}
  {tool : CompositeTool} {step : Step} {op : Operation} {settings : Nat → Sempv2.Setting}
  {params : Object}

theorem mapM_error {ε α β : Type} {f : α → Except ε β} {xs : List α} {err : ε}
    (failed : xs.mapM f = .error err) : ∃ x ∈ xs, f x = .error err := by
  induction xs with
  | nil => cases failed
  | cons x xs ih =>
      rw [List.mapM_cons] at failed
      cases here : f x with
      | error cause =>
          rw [here] at failed
          obtain rfl := Except.error.inj failed
          exact ⟨x, .head _, here⟩
      | ok y =>
          rw [here] at failed
          cases rest : xs.mapM f with
          | error cause =>
              have same : (Except.error cause : Except ε (List β)) = .error err := by
                rw [rest] at failed
                exact failed
              obtain rfl := Except.error.inj same
              obtain ⟨z, member, there⟩ := ih rest
              exact ⟨z, .tail _ member, there⟩
          | ok ys =>
              rw [rest] at failed
              cases failed

theorem prepare_unsaid (deletes : DeleteTool ce tool step op) {execCtx : ExecuteContext} {err : Chain}
    (failed : prepare ce host step execCtx = .error err) : Unsaid err := by
  unfold prepare at failed
  split at failed
  · rename_i cause resolved
    obtain rfl := Except.error.inj failed
    refine .cons rfl (.cons rfl ?_)
    obtain ⟨arg, -, failed⟩ := mapM_error resolved
    unfold resolveArg at failed
    split at failed
    · cases failed
    · obtain rfl := Except.error.inj failed
      rfl
  · rw [deletes.operation] at failed
    dsimp only at failed
    split at failed
    · rename_i cause constructed
      obtain rfl := Except.error.inj failed
      unfold constructRequestBody at constructed
      rw [deletes.noBody] at constructed
      simp only [Bool.not_false, ↓reduceIte] at constructed
      split_ifs at constructed
      obtain rfl := Except.error.inj constructed
      rfl
    · cases failed

theorem runSingle_delete (deletes : DeleteTool ce tool step op) (client : Client)
    (execCtx : ExecuteContext) : runSingle ce host step client execCtx =
      match prepare ce host step execCtx with
      | .error err => .error err
      | .ok (op, args) => (client 0 op args).mapError (inStep step) := by
  unfold runSingle
  rw [deletes.onePage]
  cases prepare ce host step execCtx with
  | error err => rfl
  | ok prepared =>
      obtain ⟨op, args⟩ := prepared
      show callOnce step client op args = (client 0 op args).mapError (inStep step)
      unfold callOnce
      cases client 0 op args with
      | ok data => rfl
      | error err =>
          have none : retryWithoutOptionalArgs step args err = none := by
            simp [retryWithoutOptionalArgs, deletes.required]
          dsimp only
          rw [none]
          rfl

theorem completed_not_absent {id : String} {data : Object} :
    ¬ ReportsAbsent (.completed [(id, .obj data)]) := by
  rintro ⟨content, same, outcome, -⟩
  obtain rfl := Option.some.inj same
  rw [Object.str?, Assoc.lookup_cons_eq] at outcome
  split_ifs at outcome
  · cases outcome
  · cases outcome

theorem desired_absent_iff {outcome : DesiredStateOutcome} :
    ReportsAbsent (.desired outcome) ↔ outcome.outcome = .alreadyAbsent := by
  obtain ⟨state, code, status, operation⟩ := outcome
  cases state with
  | alreadyAbsent => exact iff_of_true ⟨_, rfl, rfl, rfl⟩ rfl
  | alreadyExists =>
      refine iff_of_false ?_ (by simp)
      rintro ⟨content, same, said, -⟩
      obtain rfl := Option.some.inj same
      have other : "already_exists" = "already_absent" := Option.some.inj said
      exact absurd other (by decide)

def Absence (err : Chain) : Prop :=
  ∃ e, err.findSome? Link.semp? = some e ∧ isNotFoundOnDelete e = true ∧
    ¬ (e.sempCode = sempCodePermissionDenied ∧ e.statusCode ≠ 401)

theorem callTool_absent_iff :
    ReportsAbsent (callTool ce host json retryMax tool step settings params) ↔
      ∃ err, runSingle ce host step (httpClient json retryMax tool settings)
        ⟨stripBroker params, [], none⟩ = .error err ∧ Absence err := by
  unfold callTool
  cases ran : runSingle ce host step (httpClient json retryMax tool settings)
      ⟨stripBroker params, [], none⟩ with
  | ok data => exact iff_of_false completed_not_absent (by simp)
  | error err =>
      have failed {err : Chain} : ¬ ReportsAbsent (.failed err) := by
        rintro ⟨content, none, -⟩
        cases none
      simp only [Except.error.injEq, exists_eq_left']
      constructor
      · intro reports
        split_ifs at reports with denied
        · exact absurd reports failed
        · split at reports
          · rename_i outcome classified
            obtain ⟨e, found, gone, -⟩ :=
              classify_absent_iff.mp ⟨classified, desired_absent_iff.mp reports⟩
            refine ⟨e, found, gone, fun permission => denied ?_⟩
            simpa [isBrokerAuthzDenial, found] using permission
          · exact absurd reports failed
      · rintro ⟨e, found, gone, allowed⟩
        have admitted : ¬ isBrokerAuthzDenial err = true := by
          simpa [isBrokerAuthzDenial, found] using allowed
        obtain ⟨classified, absent⟩ := classify_absent_iff.mpr ⟨e, found, gone, rfl⟩
        rw [if_neg admitted, classified]
        exact desired_absent_iff.mpr absent

structure Absent (ce : CompositeExecutor) (host : Host) (json : Sempv2.Decoder Object)
    (retryMax : Nat) (tool : CompositeTool) (step : Step) (op : Operation)
    (setting : Sempv2.Setting) (params : Object) (n : Nat) : Prop where
  prepared : ∃ args, prepare ce host step ⟨stripBroker params, [], none⟩ = .ok (op, args)
  handed : Sends setting
  answered : ∃ reply, Answers setting.world.attempts retryMax 0
    (.new ⟨op.method, false, tool.idempotent = some false⟩) n reply ∧ SaysAbsent json op reply

theorem callTool_absent (deletes : DeleteTool ce tool step op) (quiet : Quiet (settings 0)) (n : Nat) :
    ReportsAbsent (callTool ce host json retryMax tool step settings params) ∧
        (Sempv2.execute json retryMax op.toOperation false (tool.idempotent = some false)
          (settings 0)).tries.length = n + 1 ↔
      Absent ce host json retryMax tool step op (settings 0) params n := by
  rw [callTool_absent_iff, runSingle_delete deletes]
  have executed (e : SEMPError) := execute_semp_iff json retryMax op.toOperation
    (tool.idempotent = some false) quiet e n
  cases prepared : prepare ce host step ⟨stripBroker params, [], none⟩ with
  | error err =>
      constructor
      · rintro ⟨⟨shown, same, e, found, -⟩, -⟩
        obtain rfl := Except.error.inj same
        cases (prepare_unsaid deletes prepared).symm.trans found
      · intro absent
        obtain ⟨args, done⟩ := absent.prepared
        cases prepared.symm.trans done
  | ok found =>
      obtain ⟨op', args⟩ := found
      obtain rfl : op = op' :=
        Option.some.inj (deletes.operation.symm.trans (prepare_operation prepared))
      dsimp only
      constructor
      · rintro ⟨⟨shown, same, e, found, gone, allowed⟩, count⟩
        unfold httpClient at same
        cases result : (Sempv2.execute json retryMax op.toOperation false
            (tool.idempotent = some false) (settings 0)).result with
        | ok value =>
            rw [result] at same
            cases same
        | error err =>
            rw [result] at same
            obtain rfl := Except.error.inj same
            obtain ⟨handed, reply, answers, refuses⟩ := (executed e).mp ⟨⟨err, result, found⟩, count⟩
            exact ⟨⟨args, prepared⟩, handed, reply, answers, e, refuses, gone, allowed⟩
      · rintro ⟨-, handed, reply, answers, e, refuses, gone, allowed⟩
        obtain ⟨⟨err, result, found⟩, count⟩ := (executed e).mpr ⟨handed, reply, answers, refuses⟩
        refine ⟨⟨inStep step err, ?_, e, found, gone, allowed⟩, count⟩
        unfold httpClient
        rw [result]
        rfl

end Report

/-! ## What makes the report false -/

section Truth

variable (ce : CompositeExecutor) (host : Host) (json : Sempv2.Decoder Object) (retryMax : Nat)
  (tool : CompositeTool) (step : Step) (op : Operation) (params : Object)

def TrueOf (settings : Nat → Sempv2.Setting) (removed : Nat → Bool) (k : Nat) : Prop :=
  ReportsAbsent (callTool ce host json retryMax tool step settings params) →
    k < (Sempv2.execute json retryMax op.toOperation false (tool.idempotent = some false)
      (settings 0)).tries.length → removed k = false

def NotFound (marked : Bool) (attempts : Nat → Attempt) (k : Nat) : Prop :=
  ∃ reply, Passes marked attempts k reply ∧ SaysAbsent json op reply

/-- If attempt `k` is made and then replayed, or answered with `NOT_FOUND`, it has not removed the
object. -/
def UnremovedAt (attempts : Nat → Attempt) (removed : Nat → Bool) (k : Nat) : Prop :=
  (∀ j < k, Replayed retryMax (tool.idempotent = some false) attempts j) →
    (Replayed retryMax (tool.idempotent = some false) attempts k ∨
      NotFound json op (tool.idempotent = some false) attempts k) → removed k = false

/-- Some body within the cap is read as the error `NOT_FOUND`. -/
def Speaks (json : Sempv2.Decoder Object) : Prop :=
  ∃ body description, body.length ≤ Sempv2.maxSEMPResponseBytes ∧
    json.envelope body = some ⟨6, "NOT_FOUND", description⟩

def follow (setting : Sempv2.Setting) (attempts : Nat → Attempt) : Sempv2.Setting :=
  { setting with world := { setting.world with attempts := attempts } }

variable {ce host json retryMax tool step op params}

theorem Quiet.follow {setting : Sempv2.Setting} (quiet : Quiet setting) {attempts : Nat → Attempt}
    (reauth : ∀ n err, (attempts n).addAuth = some err → Unsaid err) :
    Quiet (follow setting attempts) :=
  ⟨quiet.buildURL, quiet.buildRequest, quiet.addAuth, quiet.wrapping, reauth⟩

theorem sends_follow {setting : Sempv2.Setting} (sends : Sends setting) (attempts : Nat → Attempt) :
    Sends (follow setting attempts) :=
  ⟨sends.url, sends.request, sends.auth, sends.reached⟩

theorem Absent.iff (deletes : DeleteTool ce tool step op) {setting : Sempv2.Setting} (n : Nat) :
    Absent ce host json retryMax tool step op setting params n ↔
      (∃ args, prepare ce host step ⟨stripBroker params, [], none⟩ = .ok (op, args)) ∧
      Sends setting ∧
      (∀ j < n, Replayed retryMax (tool.idempotent = some false) setting.world.attempts j) ∧
      NotFound json op (tool.idempotent = some false) setting.world.attempts n := by
  have guard : guarded (.new ⟨op.method, false, tool.idempotent = some false⟩) = false := by
    rw [deletes.method]
    rfl
  have tracked : Tracked (tool.idempotent = some false) setting.world.attempts 0
      (.new ⟨op.method, false, tool.idempotent = some false⟩) := tracked_new guard
  have answers (reply : Reply) : Answers setting.world.attempts retryMax 0
      (.new ⟨op.method, false, tool.idempotent = some false⟩) n reply ↔ _ :=
    answers_iff tracked (Nat.zero_add retryMax)
  constructor
  · rintro ⟨prepared, sends, reply, answered, absent⟩
    obtain ⟨-, replayed, passes⟩ := (answers reply).mp answered
    exact ⟨prepared, sends, fun j less => replayed j (Nat.zero_le j) less, reply, passes, absent⟩
  · rintro ⟨prepared, sends, replayed, reply, passes, absent⟩
    exact ⟨prepared, sends, reply, (answers reply).mpr ⟨Nat.zero_le n, fun j _ => replayed j, passes⟩,
      absent⟩

theorem Speaks.says (speaks : Speaks json) (deletes : DeleteTool ce tool step op) :
    ∃ body, SaysAbsent json op ⟨400, ⟨body, none⟩⟩ := by
  obtain ⟨body, description, short, read⟩ := speaks
  refine ⟨body, _, ⟨body, ?_, by simp, rfl⟩, ?_, ?_⟩
  · simp [readCappedBody, short]
  · simp [Sempv2.parseSEMPError, read, isNotFoundOnDelete, isSEMPStatus, deletes.named]
  · simp [Sempv2.parseSEMPError, read, sempCodePermissionDenied]

theorem can_report (deletes : DeleteTool ce tool step op) {setting : Sempv2.Setting}
    (quiet : Quiet setting) (sends : Sends setting)
    (prepared : ∃ args, prepare ce host step ⟨stripBroker params, [], none⟩ = .ok (op, args))
    (speaks : Speaks json) {k : Nat} (replayed : ∀ j ≤ k,
      Replayed retryMax (tool.idempotent = some false) setting.world.attempts j) :
    ∃ attempts, (∀ j ≤ k, attempts j = setting.world.attempts j) ∧
      (∀ n err, (attempts n).addAuth = some err → Unsaid err) ∧
      Absent ce host json retryMax tool step op (follow setting attempts) params (k + 1) := by
  obtain ⟨body, absent⟩ := speaks.says deletes
  let last : Attempt := ⟨true, .answered ⟨400, ⟨body, none⟩⟩, none, (false, none), ⟨false, false⟩,
    none, none⟩
  let attempts := fun j => if j ≤ k then setting.world.attempts j else last
  have same : ∀ j ≤ k, attempts j = setting.world.attempts j := fun j le => if_pos le
  have next : attempts (k + 1) = last := if_neg (by omega)
  refine ⟨attempts, same, ?_, ?_⟩
  · intro n err failed
    by_cases le : n ≤ k
    · rw [same n le] at failed
      exact quiet.reauth n err failed
    · rw [show attempts n = last from if_neg le] at failed
      cases failed
  · rw [Absent.iff deletes]
    refine ⟨prepared, sends_follow sends attempts, fun j less => ?_, _, ?_, absent⟩
    · exact (replayed j (by omega)).of_agree fun i le => same i (by omega)
    · refine ⟨?_, ?_, ?_, ?_, ?_⟩ <;> simp [follow, next, last, unauthorized, transient, serverError,
        Outcome.status?]

theorem trueOf_of_unremoved {settings : Nat → Sempv2.Setting} {removed : Nat → Bool} {k : Nat}
    (deletes : DeleteTool ce tool step op) (quiet : Quiet (settings 0))
    (unremoved : UnremovedAt json retryMax tool op (settings 0).world.attempts removed k) :
    TrueOf ce host json retryMax tool step op params settings removed k := by
  intro reports within
  obtain ⟨n, count⟩ : ∃ n, (Sempv2.execute json retryMax op.toOperation false
      (tool.idempotent = some false) (settings 0)).tries.length = n + 1 :=
    ⟨_, (Nat.succ_pred_eq_of_pos (by omega)).symm⟩
  have absent := (callTool_absent deletes quiet n).mp ⟨reports, count⟩
  obtain ⟨-, -, replayed, notFound⟩ := (Absent.iff deletes n).mp absent
  have before : ∀ j < k, Replayed retryMax (tool.idempotent = some false)
      (settings 0).world.attempts j := fun j less => replayed j (by omega)
  rcases Nat.lt_or_eq_of_le (Nat.le_of_lt_succ (count ▸ within)) with less | rfl
  · exact unremoved before (.inl (replayed k less))
  · exact unremoved before (.inr notFound)

theorem UnremovedAt.of_agree {attempts attempts' : Nat → Attempt} {removed removed' : Nat → Bool}
    {k : Nat} (same : ∀ j ≤ k, attempts' j = attempts j ∧ removed' j = removed j)
    (unremoved : UnremovedAt json retryMax tool op attempts removed k) :
    UnremovedAt json retryMax tool op attempts' removed' k := by
  have back : ∀ j ≤ k, attempts j = attempts' j := fun j le => (same j le).1.symm
  intro before here
  rw [(same k le_rfl).2]
  refine unremoved (fun j less => ?_) (here.imp ?_ ?_)
  · exact (before j less).of_agree fun i le => back i (by omega)
  · exact fun replayed => replayed.of_agree back
  · rintro ⟨reply, passes, absent⟩
    exact ⟨reply, passes.of_agree back, absent⟩

theorem trueOf_absent {setting : Sempv2.Setting} {removed : Nat → Bool} {k n : Nat}
    (deletes : DeleteTool ce tool step op) (quiet : Quiet setting)
    (truthful : TrueOf ce host json retryMax tool step op params (fun _ => setting) removed k)
    (absent : Absent ce host json retryMax tool step op setting params n) (within : k ≤ n) :
    removed k = false := by
  have reported : ReportsAbsent (callTool ce host json retryMax tool step (fun _ => setting) params) ∧
      (Sempv2.execute json retryMax op.toOperation false (tool.idempotent = some false)
        setting).tries.length = n + 1 := (callTool_absent deletes quiet n).mpr absent
  exact truthful reported.1 (lt_of_lt_of_eq (Nat.lt_succ_of_le within) reported.2.symm)

end Truth

/-- `changed: false` is true if no attempt that is replayed has removed the object, and none that is
answered with `NOT_FOUND`. Of an attempt for which this does not hold it is false in some course of the
attempts after it. -/
theorem changed_false_iff (ce : CompositeExecutor) (host : Host) (json : Sempv2.Decoder Object)
    (retryMax : Nat) (tool : CompositeTool) (step : Step) (op : Operation)
    (settings : Nat → Sempv2.Setting) (params : Object) (removed : Nat → Bool)
    (deletes : DeleteTool ce tool step op) (quiet : Quiet (settings 0)) :
    ((∀ k, UnremovedAt json retryMax tool op (settings 0).world.attempts removed k) →
      ReportsAbsent (callTool ce host json retryMax tool step settings params) →
      ∀ k < (Sempv2.execute json retryMax op.toOperation false (tool.idempotent = some false)
        (settings 0)).tries.length, removed k = false) ∧
    (Sends (settings 0) →
      (∃ args, prepare ce host step ⟨stripBroker params, [], none⟩ = .ok (op, args)) → Speaks json →
      ∀ k, UnremovedAt json retryMax tool op (settings 0).world.attempts removed k ↔
        ∀ attempts' removed',
          (∀ j ≤ k, attempts' j = (settings 0).world.attempts j ∧ removed' j = removed j) →
          (∀ n err, (attempts' n).addAuth = some err → Unsaid err) →
          TrueOf ce host json retryMax tool step op params (fun _ => follow (settings 0) attempts')
            removed' k) := by
  constructor
  · intro unremoved reports k within
    exact trueOf_of_unremoved deletes quiet (unremoved k) reports within
  · intro sends prepared speaks k
    constructor
    · intro unremoved attempts' removed' same reauth
      exact trueOf_of_unremoved deletes (quiet.follow reauth) (unremoved.of_agree same)
    · intro truthful before here
      rcases here with replayed | notFound
      · have upTo : ∀ j ≤ k, Replayed retryMax (tool.idempotent = some false)
            (settings 0).world.attempts j := by
          intro j le
          rcases Nat.lt_or_eq_of_le le with less | rfl
          · exact before j less
          · exact replayed
        obtain ⟨attempts', same, reauth, absent⟩ := can_report deletes quiet sends prepared speaks upTo
        have after := truthful attempts' removed (fun j le => ⟨same j le, rfl⟩) reauth
        exact trueOf_absent deletes (quiet.follow reauth) after absent (by omega)
      · have here := truthful (settings 0).world.attempts removed (fun _ _ => ⟨rfl, rfl⟩) quiet.reauth
        have absent : Absent ce host json retryMax tool step op (settings 0) params k :=
          (Absent.iff deletes k).mpr ⟨prepared, sends, before, notFound⟩
        exact trueOf_absent deletes quiet here absent le_rfl

/-! ## Deleting a queue -/

def deleteHost : Host where
  template _ text _ := .ok text
  parseCursor uri := .ok uri
  toInt q := q.num.tdiv q.den
  bodyChecks _ _ _ := .ok ()

def deleteQueueStep : Step where
  id := "deleteQueue"
  operation := "config/deleteMsgVpnQueue"
  args := [("msgVpnName", "default"), ("queueName", "q1")]
  select := []
  parallel := false
  followPages := false
  forEach := ""
  forEachIf := ""
  forEachKey := ""
  concurrency := 0
  optionalArgs := []
  bodyChecks := []
  resumable := false

def deleteMsgVpnQueue : Operation where
  id := "deleteMsgVpnQueue"
  method := "DELETE"
  parameters := [⟨"msgVpnName", "path"⟩, ⟨"queueName", "path"⟩]
  bodyFields := none

def deleteExecutor : CompositeExecutor where
  operations := [("config/deleteMsgVpnQueue", deleteMsgVpnQueue)]
  maxPages := defaultMaxPages

def deleteQueue : CompositeTool where
  name := "delete-queue"
  parameters := []
  steps := [deleteQueueStep]
  result := ⟨"collect", "", false⟩
  idempotent := none

def absentDecoder : Sempv2.Decoder Object where
  data _ := .ok []
  envelope _ := some ⟨6, "NOT_FOUND", "Queue q1 does not exist."⟩

def answeredWith (outcome : Outcome) : Attempt where
  wroteHeaders := true
  outcome := outcome
  ctxErr := none
  policy := (true, none)
  authResult := ⟨false, false⟩
  backoff := none
  addAuth := none

def settingOf (attempts : Nat → Attempt) : Sempv2.Setting where
  buildURL := none
  buildRequest := none
  addAuth := none
  world := ⟨none, none, attempts⟩

theorem settingOf_quiet {attempts : Nat → Attempt} (ready : ∀ n, (attempts n).addAuth = none) :
    Quiet (settingOf attempts) := by
  refine ⟨by simp [settingOf], by simp [settingOf], by simp [settingOf], by simp [settingOf], ?_⟩
  intro n err failed
  cases (ready n).symm.trans failed

theorem deleteQueue_deletes :
    DeleteTool deleteExecutor deleteQueue deleteQueueStep deleteMsgVpnQueue :=
  ⟨rfl, rfl, rfl, rfl, rfl, rfl, rfl⟩

def lostReply : Nat → Attempt
  | 0 => answeredWith (.failed none [.named "connection reset by peer"])
  | _ => answeredWith (.answered ⟨400, ⟨[123, 125], none⟩⟩)

def throttledFirst : Nat → Attempt
  | 0 => answeredWith (.answered ⟨429, ⟨[], none⟩⟩)
  | _ => answeredWith (.answered ⟨400, ⟨[123, 125], none⟩⟩)

theorem lostReply_replayed : Replayed 3 false lostReply 0 :=
  ⟨by decide, rfl, rfl, .transport none _ rfl rfl rfl⟩

/-- A call that is throttled first and then finds nothing, and one that can come to report a removal of
its own as no change. -/
theorem changed_false_throttled_first :
    (ReportsAbsent (callTool deleteExecutor deleteHost absentDecoder 3 deleteQueue deleteQueueStep
        (fun _ => settingOf throttledFirst) []) ∧
      ∀ k < (Sempv2.execute absentDecoder 3 deleteMsgVpnQueue.toOperation false false
        (settingOf throttledFirst)).tries.length, (fun _ => false) k = false) ∧
    ∃ attempts' removed', (∀ j ≤ 0, attempts' j = lostReply j ∧ removed' j = decide (j = 0)) ∧
      ¬ TrueOf deleteExecutor deleteHost absentDecoder 3 deleteQueue deleteQueueStep deleteMsgVpnQueue
        [] (fun _ => follow (settingOf lostReply) attempts') removed' 0 := by
  have reports : ReportsAbsent (callTool deleteExecutor deleteHost absentDecoder 3 deleteQueue
      deleteQueueStep (fun _ => settingOf throttledFirst) []) := ⟨_, rfl, rfl, rfl⟩
  have quiet : Quiet (settingOf throttledFirst) := settingOf_quiet (by rintro (_ | n) <;> rfl)
  refine ⟨⟨reports, (changed_false_iff deleteExecutor deleteHost absentDecoder 3 deleteQueue
    deleteQueueStep deleteMsgVpnQueue (fun _ => settingOf throttledFirst) [] (fun _ => false)
    deleteQueue_deletes quiet).1 (fun _ _ _ => rfl) reports⟩, ?_⟩
  have quiet : Quiet (settingOf lostReply) := settingOf_quiet (by rintro (_ | n) <;> rfl)
  have told := (changed_false_iff deleteExecutor deleteHost absentDecoder 3 deleteQueue
    deleteQueueStep deleteMsgVpnQueue (fun _ => settingOf lostReply) [] (fun k => decide (k = 0))
    deleteQueue_deletes quiet).2 ⟨rfl, rfl, rfl, rfl⟩ ⟨_, rfl⟩ ⟨[], _, Nat.zero_le _, rfl⟩ 0
  by_contra none
  simp only [not_exists, not_and, not_not] at none
  have unremoved := told.mpr fun attempts' removed' same _ => none attempts' removed' same
  cases unremoved (by simp) (.inl lostReply_replayed)

theorem changed_false_after_removal :
    ¬ (ReportsAbsent (callTool deleteExecutor deleteHost absentDecoder 3 deleteQueue deleteQueueStep
        (fun _ => settingOf lostReply) []) →
      ∀ k < (Sempv2.execute absentDecoder 3 deleteMsgVpnQueue.toOperation false false
        (settingOf lostReply)).tries.length, (fun k => decide (k = 0)) k = false) := by
  intro truthful
  have reports : ReportsAbsent (callTool deleteExecutor deleteHost absentDecoder 3 deleteQueue
      deleteQueueStep (fun _ => settingOf lostReply) []) := ⟨_, rfl, rfl, rfl⟩
  exact absurd (truthful reports 0 (by decide)) (by decide)

end BrokerMcp.Proof.Tools
