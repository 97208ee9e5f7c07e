import BrokerMcp.Tools.SendRecorder
import BrokerMcp.Proof.Composite.Joined

namespace BrokerMcp.Proof.Tools
open Resilience BrokerMcp.Composite BrokerMcp.Tools
open BrokerMcp.Proof.Composite (Over Tidy ExecMoves patient step_execMoves move_inv tidy_start
  keepResults)
open Transition

variable {ce : CompositeExecutor} {host : Host}
variable {applyResultStrategy : List (String × Object) → Except Chain Object} {retrySafe : Bool}
variable {tool : CompositeTool} {params : Object} {s t : ToolCall} {a : ToolAction}
variable {history : List (ToolCall × ToolAction)}

def writes (ce : CompositeExecutor) (retrySafe : Bool) (p : ToolCall × ToolAction) : Bool :=
  match p.2 with
  | .wroteHeaders site =>
      (p.1.requestAt ce retrySafe site).any fun request => isWriteRequest request.1 request.2
  | _ => false

def waits (host : Host) (p : ToolCall × ToolAction) : Bool :=
  match p.2 with
  | .exec a => p.1.exec.all fun exec => patient host (exec, a)
  | _ => true

section moves

variable (ce : CompositeExecutor) (host : Host) (retrySafe : Bool) (tool : CompositeTool)
  (params : Object)

inductive ToolMoves (s : ToolCall) : ToolAction → ToolCall → Prop where
  | requests {method : String} {safe : Bool} (staying : s.returned = false) :
      ToolMoves s (.request method safe) { s with own := s.own ++ [⟨method, safe, true⟩] }
  | answers {r : Nat} {request : OwnRequest} (here : s.own[r]? = some request) :
      ToolMoves s (.answer r) { s with own := s.own.set r { request with busy := false } }
  | handsOver {ended : Bool} (staying : s.returned = false) :
      ToolMoves s (.handOver ended) { s with exec := some (execute tool params ended) }
  | executes {exec exec' : Execution} {a : ExecAction} (running : s.exec = some exec)
      (moves : ExecMoves ce host exec a exec') :
      ToolMoves s (.exec a) { s with exec := some exec' }
  | leaves (answered : s.answered = true)
      (joined : ∀ exec, s.exec = some exec → exec.isOver = true) :
      ToolMoves s .leave { s with returned := true }
  | writes {site : Site} {request : String × Bool}
      (found : s.requestAt ce retrySafe site = some request) :
      ToolMoves s (.wroteHeaders site)
        { s with sent := s.sent || isWriteRequest request.1 request.2 }
  | emits (returned : s.returned = true) : ToolMoves s .emit s

end moves

theorem step_toolMoves
    (taken : s.step ce host applyResultStrategy retrySafe tool params a = some t) :
    ToolMoves ce host retrySafe tool params s a t := by
  cases a with
  | request method safe =>
      obtain ⟨free, moved⟩ := Option.ite_none_left_eq_some.mp taken
      obtain rfl := Option.some.inj moved
      exact .requests (by simp_all)
  | answer r =>
      obtain ⟨request, here, rfl⟩ := Option.map_eq_some_iff.mp taken
      exact .answers here
  | handOver ended =>
      obtain ⟨free, moved⟩ := Option.ite_none_left_eq_some.mp taken
      obtain rfl := Option.some.inj moved
      exact .handsOver (by simp_all)
  | exec a =>
      obtain ⟨exec, running, moved⟩ := Option.bind_eq_some_iff.mp taken
      obtain ⟨exec', stepped, moved⟩ := Option.bind_eq_some_iff.mp moved
      obtain rfl := Option.some.inj moved
      exact .executes running (step_execMoves stepped)
  | leave =>
      obtain ⟨done, moved⟩ := Option.ite_none_right_eq_some.mp taken
      obtain rfl := Option.some.inj moved
      obtain ⟨answered, joined⟩ := (Bool.and_eq_true _ _).mp done
      exact .leaves answered fun exec running => by simpa [running] using joined
  | wroteHeaders site =>
      obtain ⟨request, found, rfl⟩ := Option.map_eq_some_iff.mp taken
      exact .writes found
  | emit =>
      obtain ⟨returned, moved⟩ := Option.ite_none_right_eq_some.mp taken
      obtain rfl := Option.some.inj moved
      exact .emits returned

theorem ToolMoves.sent (moves : ToolMoves ce host retrySafe tool params s a t) :
    t.sent = (s.sent || Tools.writes ce retrySafe (s, a)) := by
  cases moves with
  | requests _ | answers _ | handsOver _ | executes _ _ | leaves _ _ | emits _ =>
      exact (Bool.or_false _).symm
  | writes found => simp [Tools.writes, found]

theorem sent_run
    (run : Run (ToolCall.step ce host applyResultStrategy retrySafe tool params) s history t) :
    t.sent = true ↔ s.sent = true ∨ ∃ p ∈ history, writes ce retrySafe p = true := by
  induction run with
  | nil => simp
  | cons taken _ ih =>
      rw [ih, (step_toolMoves taken).sent, Bool.or_eq_true, List.exists_mem_cons_iff, or_assoc]

structure Still (s : ToolCall) : Prop where
  returned : s.returned = true
  own : ∀ (r : Nat) (request : OwnRequest), s.own[r]? = some request → request.busy = false
  joined : ∀ exec, s.exec = some exec → exec.isOver = true
  past : ∀ exec, s.exec = some exec →
    ∀ (j : Nat) (part : Part), exec.parts[j]? = some part → Over part.work

theorem still_execution {exec exec' : Execution} {a : ExecAction}
    (moves : ExecMoves ce host exec a exec') (joined : exec.isOver = true)
    (past : ∀ (j : Nat) (part : Part), exec.parts[j]? = some part → Over part.work) :
    exec'.isOver = true ∧
      ∀ (j : Nat) (part : Part), exec'.parts[j]? = some part → Over part.work := by
  cases moves with
  | cancels => exact ⟨joined, past⟩
  | begins phase _ | concludes phase _ | settles _ _ phase _ _ | joinsStep phase _ _
  | joinsBatch phase _ => simp [Execution.isOver, phase] at joined
  | single here work moved =>
      have past := past _ _ here
      rw [work] at past
      exact absurd past (by simp [Over, (move_inv moved).1])
  | fan here work moves =>
      refine ⟨joined, Cells.forall_set here past ?_⟩
      exact Over.fan (work ▸ past _ _ here) moves

theorem Still.move (still : Still s) (moves : ToolMoves ce host retrySafe tool params s a t) :
    Still t := by
  cases moves with
  | requests staying | handsOver staying => simp [still.returned] at staying
  | answers here =>
      exact ⟨still.returned, Cells.forall_set here still.own rfl, still.joined, still.past⟩
  | executes running moves =>
      obtain ⟨joined, past⟩ :=
        still_execution moves (still.joined _ running) (still.past _ running)
      refine ⟨still.returned, still.own, ?_, ?_⟩
      all_goals
        intro exec same
        obtain rfl := Option.some.inj same
        assumption
  | leaves _ _ => exact ⟨rfl, still.own, still.joined, still.past⟩
  | writes _ => exact ⟨still.returned, still.own, still.joined, still.past⟩
  | emits _ => exact still

theorem callAt_calling {exec : Execution} {site : Site} {step : Step}
    (found : callAt exec site = some step) :
    ∃ (j : Nat) (part : Part), exec.parts[j]? = some part ∧ part.work.isCalling = true := by
  cases site with
  | own r => cases found
  | single j =>
      obtain ⟨part, here, found⟩ := Option.bind_eq_some_iff.mp found
      split at found
      · next thread work =>
          obtain ⟨calling, -⟩ := Option.ite_none_right_eq_some.mp found
          exact ⟨j, part, here, by rw [work]; exact calling⟩
      · cases found
  | worker j w =>
      obtain ⟨part, here, found⟩ := Option.bind_eq_some_iff.mp found
      split at found
      · next fan work =>
          obtain ⟨worker, there, found⟩ := Option.bind_eq_some_iff.mp found
          obtain ⟨calling, -⟩ := Option.ite_none_right_eq_some.mp found
          refine ⟨j, part, here, ?_⟩
          rw [work]
          exact List.any_eq_true.mpr ⟨worker, List.mem_of_getElem? there, calling⟩
      · cases found

theorem Still.no_call (still : Still s) {exec : Execution} (running : s.exec = some exec)
    (site : Site) : callAt exec site = none := by
  cases found : callAt exec site with
  | none => rfl
  | some step =>
      obtain ⟨j, part, here, calling⟩ := callAt_calling found
      exact absurd calling (by simp [(still.past exec running j part here).not_calling])

theorem Still.no_request (still : Still s) (site : Site) :
    s.requestAt ce retrySafe site = none := by
  cases site with
  | own r =>
      cases here : s.own[r]? with
      | none => simp [ToolCall.requestAt, here]
      | some request => simp [ToolCall.requestAt, here, still.own r request here]
  | single j | worker j w =>
      cases running : s.exec with
      | none => simp [ToolCall.requestAt, running]
      | some exec => simp [ToolCall.requestAt, running, still.no_call running]

theorem Still.no_write (still : Still s) (a : ToolAction) :
    writes ce retrySafe (s, a) = false := by
  cases a with
  | wroteHeaders site => simp [writes, still.no_request]
  | _ => rfl

structure Orderly (s : ToolCall) : Prop where
  tidy : ∀ exec, s.exec = some exec → Tidy exec
  still : s.returned = true → Still s

theorem Orderly.move (orderly : Orderly s)
    (moves : ToolMoves ce host retrySafe tool params s a t) (waiting : waits host (s, a) = true) :
    Orderly t := by
  constructor
  · cases moves with
    | requests _ | answers _ | leaves _ _ | writes _ | emits _ => exact orderly.tidy
    | handsOver _ =>
        intro exec same
        obtain rfl := Option.some.inj same
        exact tidy_start
    | executes running moves =>
        intro exec same
        obtain rfl := Option.some.inj same
        exact (orderly.tidy _ running).move moves (by simpa [waits, running] using waiting)
  · intro returned
    by_cases before : s.returned = true
    · exact (orderly.still before).move moves
    · cases moves with
      | leaves answered joined =>
          refine ⟨rfl, ?_, joined, ?_⟩
          · intro r request here
            have idle := List.all_eq_true.mp answered request (List.mem_of_getElem? here)
            simpa using idle
          · intro exec running
            exact (orderly.tidy exec running).all_over (joined exec running)
      | requests _ | answers _ | handsOver _ | executes _ _ | writes _ | emits _ =>
          exact absurd returned before

/-- The value that the emission reads says whether the headers of a write had been written before. If
no dispatch loop met an invalid row before the workers of its earlier rows were over, none are
written after it. -/
theorem write_sent_read (ce : CompositeExecutor) (host : Host)
    (applyResultStrategy : List (String × Object) → Except Chain Object) (retrySafe : Bool)
    (tool : CompositeTool) (params : Object) {before after : List (ToolCall × ToolAction)}
    {s t : ToolCall}
    (run : Run (ToolCall.step ce host applyResultStrategy retrySafe tool params) .start
      (before ++ (s, .emit) :: after) t) :
    (s.writeSent = true ↔ ∃ p ∈ before, writes ce retrySafe p = true) ∧
      ((∀ p ∈ before, waits host p = true) → ∀ p ∈ after, writes ce retrySafe p = false) := by
  obtain ⟨middle, first, rest⟩ := run.split
  cases rest with
  | cons taken rest =>
      constructor
      · simpa [ToolCall.start, ToolCall.writeSent] using sent_run first
      · intro waiting p member
        have orderly : Orderly s := first.invariant_of waiting
          ⟨by simp [ToolCall.start], by simp [ToolCall.start]⟩
          fun _ _ _ orderly waiting taken => orderly.move (step_toolMoves taken) waiting
        obtain ⟨returned, same⟩ := Option.ite_none_right_eq_some.mp taken
        obtain rfl := Option.some.inj same
        have still := (rest.invariant (orderly.still returned) fun _ _ _ still taken =>
          still.move (step_toolMoves taken)).2 p member
        exact still.no_write p.2

def queueHost : Host where
  template name text execCtx :=
    if name = "queueName" then .ok (((execCtx.item.getD []).str? "queueName").getD "") else .ok text
  parseCursor uri := .ok uri
  toInt q := q.num.tdiv q.den
  bodyChecks _ _ _ := .ok ()

def queuesOf : Step where
  id := "queues"
  operation := "monitor/getMsgVpnQueues"
  args := [("msgVpnName", "default")]
  select := []
  parallel := false
  followPages := false
  forEach := ""
  forEachIf := ""
  forEachKey := ""
  concurrency := 0
  optionalArgs := []
  bodyChecks := []
  resumable := false

def subscribe : Step := { queuesOf with
  id := "subscriptions"
  operation := "config/createMsgVpnQueueSubscription"
  args := [("msgVpnName", "default"), ("queueName", "\x7b\x7b.Item.queueName\x7d\x7d")]
  forEach := "queues"
  forEachKey := "owner" }

def subscribeExecutor : CompositeExecutor where
  operations := [
    ("monitor/getMsgVpnQueues", ⟨⟨"getMsgVpnQueues", "GET"⟩, [⟨"msgVpnName", "path"⟩], none⟩),
    ("config/createMsgVpnQueueSubscription", ⟨⟨"createMsgVpnQueueSubscription", "POST"⟩,
      [⟨"msgVpnName", "path"⟩, ⟨"queueName", "path"⟩, ⟨"body", "body"⟩], none⟩)]
  maxPages := defaultMaxPages

def subscribeQueues : CompositeTool :=
  ⟨"subscribe-queues", [⟨"subscriptionTopic", "string"⟩], [queuesOf, subscribe],
    ⟨"collect", "", false⟩, none⟩

def queueOf (name : String) : Value := .obj [("queueName", .str name), ("owner", .str "app")]

def orders : Object := [("subscriptionTopic", .str "orders/>")]

def subscribing : List ToolAction :=
  [.handOver false, .exec .next, .exec (.single 0 .call), .exec (.single 0 .answer),
    .exec (.single 0 (.finish fun _ _ _ => .ok [("data", .arr [queueOf "q1", queueOf "q2"])])),
    .exec .join, .exec .next, .exec (.fan 1 .check), .exec (.fan 1 .select),
    .exec (.fan 1 (.worker 0 .call))]

def subscribed : List ToolAction :=
  subscribing ++ [.wroteHeaders (.worker 1 0), .exec (.fan 1 (.worker 0 .answer)),
    .exec (.fan 1 (.worker 0 (.finish fun _ _ _ => .ok []))), .exec (.fan 1 .check), .exec .join,
    .leave]

abbrev subscribeStep : ToolCall → ToolAction → Option ToolCall :=
  ToolCall.step subscribeExecutor queueHost keepResults false subscribeQueues orders

theorem write_sent_read_first_queue : ∃ before s after t,
    Run subscribeStep .start (before ++ (s, .emit) :: after) t ∧
    s.writeSent = true ∧ (∃ p ∈ before, writes subscribeExecutor false p = true) ∧
    (∀ p ∈ after, writes subscribeExecutor false p = false) := by
  obtain ⟨s, done, waiting, returned, sent⟩ : ∃ s,
      exec subscribeStep .start subscribed = some s ∧
      (trace subscribeStep .start subscribed).all (waits queueHost) = true ∧
      s.returned = true ∧ s.writeSent = true := ⟨_, rfl, rfl, rfl, rfl⟩
  have emitted : subscribeStep s .emit = some s := by simp [ToolCall.step, returned]
  have run := (run_of_exec done).append (.cons emitted (.single emitted))
  have read := write_sent_read subscribeExecutor queueHost keepResults false subscribeQueues orders
    run
  exact ⟨_, s, _, _, run, sent, read.1.mp sent, read.2 (List.all_eq_true.mp waiting)⟩

/-- The tool fails on the second queue, the emission reads that nothing was sent, and then the
request for the first queue goes out. -/
theorem write_sent_after_read : ∃ before s after t,
    Run subscribeStep .start (before ++ (s, .emit) :: after) t ∧
    s.writeSent = false ∧ ∃ p ∈ after, writes subscribeExecutor false p = true := by
  obtain ⟨s, done, emitted, sent, t, written, write⟩ : ∃ s,
      exec subscribeStep .start (subscribing ++ [.exec (.fan 1 .check), .exec .join, .leave]) =
        some s ∧
      subscribeStep s .emit = some s ∧ s.writeSent = false ∧ ∃ t,
      subscribeStep s (.wroteHeaders (.worker 1 0)) = some t ∧
      writes subscribeExecutor false (s, .wroteHeaders (.worker 1 0)) = true :=
    ⟨_, rfl, rfl, rfl, _, rfl, rfl⟩
  have run := (run_of_exec done).append (.cons emitted (.single written))
  exact ⟨_, s, _, t, run, sent, _, .head _, write⟩

end BrokerMcp.Proof.Tools
