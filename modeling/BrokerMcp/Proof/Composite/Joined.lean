import BrokerMcp.Composite.Execution
import BrokerMcp.Proof.Composite.Rows

namespace BrokerMcp.Proof.Composite
open Resilience BrokerMcp.Composite
open Transition

variable {ce : CompositeExecutor} {host : Host}
variable {applyResultStrategy : List (String × Object) → Except Chain Object}
variable {s t : Execution} {a : ExecAction}

section moves

variable (ce : CompositeExecutor) (host : Host)

inductive ExecMoves (s : Execution) : ExecAction → Execution → Prop where
  | cancels : ExecMoves s .cancel { s with ended := true }
  | begins {batch : ExecutionBatch} {rest : List ExecutionBatch} (looping : s.phase = .looping)
      (todo : s.batches = batch :: rest) : ExecMoves s .next (s.begin ce batch rest)
  | concludes {result : Except Chain Object} (looping : s.phase = .looping)
      (done : s.batches = []) : ExecMoves s .next { s with phase := .returned result }
  | single {j : Nat} {part : Part} {thread next : Thread} {move : Move}
      (here : s.parts[j]? = some part) (work : part.work = .single thread)
      (moved : thread.move (runSingle ce host part.step · s.execCtx) move = some next) :
      ExecMoves s (.single j move) (s.setWork j part (.single next))
  | fan {j : Nat} {part : Part} {fan fan' : FanOut} {a : FanAction}
      (here : s.parts[j]? = some part) (work : part.work = .fanOut fan)
      (moves : FanMoves ce host part.step s.execCtx s.groupEnded fan a fan') :
      ExecMoves s (.fan j a) (s.setWork j part (.fanOut fan'))
  | settles {j : Nat} {part : Part} {result : Except Chain Object}
      {results : List (String × Object)} {failure : Option Chain}
      (here : s.parts[j]? = some part) (past : part.work.result? = some result)
      (batch : s.phase = .inBatch results failure) (current : s.base ≤ j)
      (unsettled : part.settled = false) :
      ExecMoves s (.settle j) { s with
        parts := s.parts.set j { part with settled := true }
        phase := .inBatch (results ++ result.toOption.toList.map (part.step.id, ·))
          (firstError failure result) }
  | joinsStep {part : Part} {result : Except Chain Object} (step : s.phase = .inStep)
      (here : s.parts[s.base]? = some part) (past : part.work.result? = some result) :
      ExecMoves s .join
        (s.joined (store s.stepResults (result.toOption.toList.map (part.step.id, ·)))
          (afterStep part result))
  | joinsBatch {results : List (String × Object)} {failure : Option Chain}
      (batch : s.phase = .inBatch results failure)
      (settled : ∀ part ∈ s.parts.drop s.base, part.settled = true) :
      ExecMoves s .join
        (s.joined (if failure.isSome then s.stepResults else store s.stepResults results)
          (afterBatch failure))

end moves

theorem moveSingle_moves {j : Nat} {move : Move} (moved : s.moveSingle ce host j move = some t) :
    ExecMoves ce host s (.single j move) t := by
  obtain ⟨part, here, moved⟩ := Option.bind_eq_some_iff.mp moved
  split at moved
  · next thread work =>
      obtain ⟨next, moves, moved⟩ := Option.bind_eq_some_iff.mp moved
      obtain rfl := Option.some.inj moved
      exact .single here work moves
  · cases moved

theorem moveFan_moves {j : Nat} {a : FanAction} (moved : s.moveFan ce host j a = some t) :
    ExecMoves ce host s (.fan j a) t := by
  obtain ⟨part, here, moved⟩ := Option.bind_eq_some_iff.mp moved
  split at moved
  · next fan work =>
      obtain ⟨fan', acts, moved⟩ := Option.bind_eq_some_iff.mp moved
      obtain rfl := Option.some.inj moved
      exact .fan here work (act_moves acts)
  · cases moved

theorem settlePart_moves {j : Nat} (moved : s.settle j = some t) :
    ExecMoves ce host s (.settle j) t := by
  obtain ⟨part, here, moved⟩ := Option.bind_eq_some_iff.mp moved
  obtain ⟨result, past, moved⟩ := Option.bind_eq_some_iff.mp moved
  split at moved
  · next results failure batch =>
      split_ifs at moved with outside
      obtain rfl := Option.some.inj moved
      obtain ⟨current, unsettled⟩ : s.base ≤ j ∧ part.settled = false := by simpa using outside
      exact .settles here past batch current unsettled
  · cases moved

theorem join_moves (moved : s.step ce host applyResultStrategy .join = some t) :
    ExecMoves ce host s .join t := by
  simp only [Execution.step] at moved
  split at moved
  · next phase =>
      obtain ⟨part, here, moved⟩ := Option.bind_eq_some_iff.mp moved
      obtain ⟨result, past, moved⟩ := Option.bind_eq_some_iff.mp moved
      obtain rfl := Option.some.inj moved
      exact .joinsStep phase here past
  · next results failure phase =>
      obtain ⟨settled, moved⟩ := Option.ite_none_right_eq_some.mp moved
      obtain rfl := Option.some.inj moved
      exact .joinsBatch phase (List.all_eq_true.mp settled)
  · cases moved

theorem step_execMoves (taken : s.step ce host applyResultStrategy a = some t) :
    ExecMoves ce host s a t := by
  cases a with
  | cancel =>
      obtain rfl := Option.some.inj taken
      exact .cancels
  | next =>
      simp only [Execution.step] at taken
      split at taken
      · next looping todo =>
          obtain rfl := Option.some.inj taken
          exact .begins looping todo
      · next looping done =>
          obtain rfl := Option.some.inj taken
          exact .concludes looping done
      · cases taken
  | single j move => exact moveSingle_moves taken
  | fan j a => exact moveFan_moves taken
  | settle j => exact settlePart_moves taken
  | join => exact join_moves taken

def leaves (host : Host) (step : Step) (execCtx : ExecuteContext) (fan : FanOut) : Bool :=
  (fan.check host step execCtx).result?.isSome

theorem isOver_of_result {thread : Thread} {result : Except Chain Object}
    (past : thread.result? = some result) : thread.isOver = true := by
  rw [Thread.isOver, past]
  rfl

theorem loop_of_result {fan : FanOut} {result : Except Chain Object}
    (past : fan.result? = some result) : fan.loop = .returned result := by
  unfold FanOut.result? at past
  split at past
  · next loop => rw [loop, Option.some.inj past]
  · cases past

structure Waited (fan : FanOut) : Prop where
  settled : ∀ (w : Nat) (worker : Worker), fan.workers[w]? = some worker →
    worker.settled = true → worker.thread.isOver = true
  returned : ∀ result, fan.loop = .returned result →
    ∀ (w : Nat) (worker : Worker), fan.workers[w]? = some worker → worker.thread.isOver = true

theorem Waited.move {step : Step} {execCtx : ExecuteContext} {ended : Bool} {fan fan' : FanOut}
    {a : FanAction} (waited : Waited fan) (moves : FanMoves ce host step execCtx ended fan a fan')
    (patient : a = .check → leaves host step execCtx fan = true →
      ∀ worker ∈ fan.workers, worker.thread.isOver = true) : Waited fan' := by
  cases moves with
  | exhausts _ _ | takes _ _ _ _ | breaks _ _ => exact ⟨waited.settled, by simp⟩
  | skips dispatching _ _ => exact ⟨waited.settled, by simp [dispatching]⟩
  | rejects _ invalid =>
      have left : leaves host step execCtx fan = true := by
        rw [leaves, FanOut.result?, invalid]
        rfl
      refine ⟨waited.settled, fun _ _ w worker here => ?_⟩
      exact patient rfl left worker (List.mem_of_getElem? here)
  | spawns _ _ _ _ => exact ⟨Cells.forall_snoc waited.settled (by simp), by simp⟩
  | advances here moved =>
      have running := (move_inv moved).1
      constructor
      · refine Cells.forall_set here waited.settled fun settled => ?_
        exact absurd (waited.settled _ _ here settled) (by simp [running])
      · intro result returned
        exact absurd (waited.returned result returned _ _ here) (by simp [running])
  | settles here past _ =>
      have past := isOver_of_result past
      exact ⟨Cells.forall_set here waited.settled fun _ => past,
        fun result returned => Cells.forall_set here (waited.returned result returned) past⟩
  | fails _ joined _ | succeeds _ joined _ =>
      refine ⟨waited.settled, fun _ _ w worker here => ?_⟩
      exact waited.settled w worker here (joined worker (List.mem_of_getElem? here))

def Over : Work → Prop
  | .single thread => thread.isOver = true
  | .fanOut fan => (∃ result, fan.loop = .returned result) ∧
      ∀ (w : Nat) (worker : Worker), fan.workers[w]? = some worker → worker.thread.isOver = true
  | .refused _ => True

def WaitedWork : Work → Prop
  | .fanOut fan => Waited fan
  | _ => True

theorem over_of_result {work : Work} {result : Except Chain Object} (waited : WaitedWork work)
    (returned : work.result? = some result) : Over work := by
  cases work with
  | single thread => exact isOver_of_result returned
  | fanOut fan =>
      have loop := loop_of_result returned
      exact ⟨⟨result, loop⟩, waited.returned result loop⟩
  | refused err => trivial

theorem Over.not_calling {work : Work} (past : Over work) : work.isCalling = false := by
  have idle : ∀ thread : Thread, thread.isOver = true → thread.isCalling = false := by
    intro thread past
    cases thread <;> simp_all [Thread.isOver, Thread.result?, Thread.isCalling]
  cases work with
  | single thread => exact idle thread past
  | fanOut fan =>
      simp only [Work.isCalling, List.any_eq_false, Bool.not_eq_true]
      intro worker member
      obtain ⟨w, here⟩ := List.mem_iff_getElem?.mp member
      exact idle worker.thread (past.2 w worker here)
  | refused err => rfl

theorem Over.fan {step : Step} {execCtx : ExecuteContext} {ended : Bool} {fan fan' : FanOut}
    {a : FanAction} (past : Over (.fanOut fan))
    (moves : FanMoves ce host step execCtx ended fan a fan') : Over (.fanOut fan') := by
  obtain ⟨⟨result, returned⟩, workers⟩ := past
  cases moves with
  | exhausts loop _ | rejects loop _ | skips loop _ _ | takes loop _ _ _ | breaks loop _
  | spawns loop _ _ _ | fails loop _ _ | succeeds loop _ _ =>
      rw [returned] at loop
      cases loop
  | advances here moved => exact absurd (workers _ _ here) (by simp [(move_inv moved).1])
  | settles here _ _ =>
      have past := workers _ _ here
      exact ⟨⟨result, returned⟩, Cells.forall_set here workers past⟩

/-- The step is not that of a dispatch loop that meets an invalid row while a worker goes on. -/
def patient (host : Host) (p : Execution × ExecAction) : Bool :=
  match p.2 with
  | .fan j .check =>
      match p.1.parts[j]? with
      | some ⟨step, .fanOut fan, _⟩ =>
          !leaves host step p.1.execCtx fan || fan.workers.all fun worker => worker.thread.isOver
      | _ => true
  | _ => true

structure Tidy (s : Execution) : Prop where
  batches : ∀ batch ∈ s.batches, batch.sequential = true → ∃ step, batch.steps = [step]
  waited : ∀ (j : Nat) (part : Part), s.parts[j]? = some part → WaitedWork part.work
  past : ∀ (j : Nat) (part : Part), s.parts[j]? = some part →
    j < s.base ∨ part.settled = true → Over part.work
  alone : s.phase = .inStep → s.parts.length = s.base + 1
  closed : s.phase = .looping ∨ s.isOver = true → s.base = s.parts.length

structure Shaped (batch : ExecutionBatch) : Prop where
  sequential : batch.sequential = true → ∃ step, batch.steps = [step] ∧ step.parallel = false
  parallel : batch.sequential = false → ∀ step ∈ batch.steps, step.parallel = true

theorem addStep_shaped {batches : List ExecutionBatch} {step : Step}
    (shaped : ∀ batch ∈ batches, Shaped batch) : ∀ batch ∈ addStep batches step, Shaped batch := by
  intro batch member
  unfold addStep at member
  split_ifs at member with parallel
  · have alone : Shaped ⟨false, [step]⟩ := ⟨nofun, by simp [parallel]⟩
    split at member
    · next steps last =>
        have before := shaped _ (List.mem_of_getLast? last)
        rcases List.mem_append.mp member with earlier | final
        · exact shaped batch (List.mem_of_mem_dropLast earlier)
        · obtain rfl := List.mem_singleton.mp final
          refine ⟨nofun, fun _ other inside => ?_⟩
          rcases List.mem_append.mp inside with old | new
          · exact before.parallel rfl other old
          · exact List.mem_singleton.mp new ▸ parallel
    · rcases List.mem_append.mp member with earlier | final
      · exact shaped batch earlier
      · exact List.mem_singleton.mp final ▸ alone
  · rcases List.mem_append.mp member with earlier | final
    · exact shaped batch earlier
    · obtain rfl := List.mem_singleton.mp final
      exact ⟨fun _ => ⟨step, rfl, by simpa using parallel⟩, nofun⟩

theorem groupStepsIntoBatches_shaped (steps : List Step) :
    ∀ batch ∈ groupStepsIntoBatches steps, Shaped batch := by
  refine List.foldlRecOn steps addStep (motive := fun batches => ∀ batch ∈ batches, Shaped batch) ?_ ?_
  · intro batch member
    cases member
  · intro batches shaped step _
    exact addStep_shaped shaped

theorem groupStepsIntoBatches_sequential (steps : List Step) :
    ∀ batch ∈ groupStepsIntoBatches steps, batch.sequential = true →
      ∃ step, batch.steps = [step] := by
  intro batch member sequential
  obtain ⟨step, only, -⟩ := (groupStepsIntoBatches_shaped steps batch member).sequential sequential
  exact ⟨step, only⟩

theorem runStep_waited {step : Step} {execCtx : ExecuteContext} :
    WaitedWork (runStep ce step execCtx) := by
  unfold runStep
  split_ifs
  · split
    · next fan begun =>
        obtain ⟨items, rfl⟩ := fetchFanOut_ok begun
        exact ⟨by simp, by simp⟩
    · trivial
  · trivial

theorem tidy_start {tool : CompositeTool} {params : Object} {ended : Bool} :
    Tidy (execute tool params ended) :=
  ⟨groupStepsIntoBatches_sequential tool.steps, by simp [execute], by simp [execute], by simp [execute],
    by simp [execute]⟩

theorem Tidy.begin (tidy : Tidy s) {batch : ExecutionBatch} {rest : List ExecutionBatch}
    (looping : s.phase = .looping) (todo : s.batches = batch :: rest) :
    Tidy (s.begin ce batch rest) := by
  have closed := tidy.closed (.inl looping)
  have split : ∀ (j : Nat) (part : Part), (s.begin ce batch rest).parts[j]? = some part →
      s.parts[j]? = some part ∨
        s.parts.length ≤ j ∧ ∃ step, part = ⟨step, runStep ce step s.execCtx, false⟩ := by
    intro j part here
    simp only [Execution.begin, List.getElem?_append] at here
    split_ifs at here with inside
    · exact .inl here
    · obtain ⟨step, -, made⟩ := List.mem_map.mp (List.mem_of_getElem? here)
      exact .inr ⟨Nat.le_of_not_lt inside, step, made.symm⟩
  constructor
  · intro later member
    exact tidy.batches later (todo ▸ List.mem_cons_of_mem batch member)
  · intro j part here
    rcases split j part here with old | ⟨-, step, rfl⟩
    · exact tidy.waited j part old
    · exact runStep_waited
  · intro j part here done
    rcases split j part here with old | ⟨new, step, rfl⟩
    · exact tidy.past j part old (done.imp_left fun _ => closed ▸ Cells.lt_of_some old)
    · simp only [Execution.begin, Bool.false_eq_true, or_false] at done
      omega
  · intro phase
    have sequential : batch.sequential = true := by
      by_contra parallel
      simp [Execution.begin, parallel] at phase
    obtain ⟨step, only⟩ := tidy.batches batch (by simp [todo]) sequential
    simp [Execution.begin, only]
  · intro phase
    unfold Execution.begin Execution.isOver at phase
    split_ifs at phase <;> simp at phase

theorem Tidy.setWork (tidy : Tidy s) {j : Nat} {part : Part} {work : Work}
    (here : s.parts[j]? = some part) (waited : WaitedWork work)
    (past : Over part.work → Over work) : Tidy (s.setWork j part work) := by
  constructor
  · exact tidy.batches
  · exact Cells.forall_set here tidy.waited waited
  · exact Cells.forall_set here tidy.past fun done => past (tidy.past j part here done)
  · intro phase
    simpa [Execution.setWork] using tidy.alone phase
  · intro phase
    simpa [Execution.setWork] using tidy.closed phase

theorem Tidy.settle (tidy : Tidy s) {j : Nat} {part : Part} {result : Except Chain Object}
    {results : List (String × Object)} {failure : Option Chain}
    (here : s.parts[j]? = some part) (past : part.work.result? = some result) :
    Tidy { s with
      parts := s.parts.set j { part with settled := true }, phase := .inBatch results failure } := by
  have waited := tidy.waited j part here
  constructor
  · exact tidy.batches
  · exact Cells.forall_set here tidy.waited waited
  · exact Cells.forall_set here tidy.past fun _ => over_of_result waited past
  · simp
  · simp [Execution.isOver]

theorem Tidy.joined (tidy : Tidy s) {stepResults : List (String × Object)} {phase : ExecPhase}
    (left : phase ≠ .inStep)
    (past : ∀ (j : Nat) (part : Part), s.parts[j]? = some part → s.base ≤ j → Over part.work) :
    Tidy (s.joined stepResults phase) := by
  constructor
  · exact tidy.batches
  · exact tidy.waited
  · intro j part here _
    rcases Nat.lt_or_ge j s.base with earlier | current
    · exact tidy.past j part here (.inl earlier)
    · exact past j part here current
  · exact fun inside => absurd inside left
  · exact fun _ => rfl

theorem Tidy.joinStep (tidy : Tidy s) (step : s.phase = .inStep) {part : Part}
    {result : Except Chain Object} (here : s.parts[s.base]? = some part)
    (past : part.work.result? = some result) {stepResults : List (String × Object)} :
    Tidy (s.joined stepResults (afterStep part result)) := by
  refine tidy.joined ?_ fun j other there current => ?_
  · unfold afterStep
    repeat' split
    all_goals simp
  · have inside := Cells.lt_of_some there
    have alone := tidy.alone step
    obtain rfl : j = s.base := by omega
    obtain rfl := Option.some.inj (here.symm.trans there)
    exact over_of_result (tidy.waited _ _ here) past

theorem Tidy.joinBatch (tidy : Tidy s)
    (settled : ∀ part ∈ s.parts.drop s.base, part.settled = true)
    {stepResults : List (String × Object)} {failure : Option Chain} :
    Tidy (s.joined stepResults (afterBatch failure)) := by
  refine tidy.joined ?_ fun j part here current => ?_
  · cases failure <;> simp [afterBatch]
  · have member : part ∈ s.parts.drop s.base := by
      refine List.mem_of_getElem? (i := j - s.base) ?_
      rw [List.getElem?_drop, Nat.add_sub_cancel' current, here]
    exact tidy.past j part here (.inr (settled part member))

theorem Tidy.move (tidy : Tidy s) (moves : ExecMoves ce host s a t)
    (waits : patient host (s, a) = true) : Tidy t := by
  cases moves with
  | cancels => exact ⟨tidy.batches, tidy.waited, tidy.past, tidy.alone, tidy.closed⟩
  | begins looping todo => exact tidy.begin looping todo
  | concludes looping _ =>
      exact ⟨tidy.batches, tidy.waited, tidy.past, by simp, fun _ => tidy.closed (.inl looping)⟩
  | single here work moved =>
      refine tidy.setWork here trivial fun past => ?_
      rw [work] at past
      exact absurd past (by simp [Over, (move_inv moved).1])
  | fan here work moves =>
      rename_i j part fan fan' a
      obtain ⟨step, _, settled⟩ := part
      obtain rfl : _ = Work.fanOut fan := work
      refine tidy.setWork here ?_ fun past => Over.fan past moves
      refine Waited.move (tidy.waited j _ here) moves ?_
      rintro rfl left worker member
      simp only [patient, here, left, Bool.not_true, Bool.false_or, List.all_eq_true] at waits
      exact waits worker member
  | settles here past _ _ _ => exact tidy.settle here past
  | joinsStep step here past => exact tidy.joinStep step here past
  | joinsBatch _ settled => exact tidy.joinBatch settled

theorem Tidy.all_over (tidy : Tidy s) (returned : s.isOver = true) (j : Nat) (part : Part)
    (here : s.parts[j]? = some part) : Over part.work := by
  have inside := Cells.lt_of_some here
  rw [← tidy.closed (.inr returned)] at inside
  exact tidy.past j part here (.inl inside)

/-- When `Execute` has returned or panicked, no call that it started is in progress, if no dispatch
loop met an invalid row before the workers of its earlier rows were over. -/
theorem no_call_outlives (ce : CompositeExecutor) (host : Host)
    (applyResultStrategy : List (String × Object) → Except Chain Object) (tool : CompositeTool)
    (params : Object) (ended : Bool) {history : List (Execution × ExecAction)} {s : Execution}
    (run : Run (Execution.step ce host applyResultStrategy) (execute tool params ended) history s)
    (waits : ∀ p ∈ history, patient host p = true) (past : s.isOver = true) :
    ∀ part ∈ s.parts, part.work.isCalling = false := by
  have tidy : Tidy s := run.invariant_of waits tidy_start fun _ _ _ tidy waits taken =>
    tidy.move (step_execMoves taken) waits
  intro part member
  obtain ⟨j, here⟩ := List.mem_iff_getElem?.mp member
  exact (tidy.all_over past j part here).not_calling

def vpnsStep : Step where
  id := "vpns"
  operation := "monitor/getMsgVpns"
  args := [("count", "100")]
  select := ["enabled", "msgVpnConnections", "msgVpnName", "state"]
  parallel := false
  followPages := true
  forEach := ""
  forEachIf := ""
  forEachKey := ""
  concurrency := 0
  optionalArgs := []
  bodyChecks := []
  resumable := false

def listVpns : CompositeTool :=
  ⟨"list-vpns", [⟨"maxResults", "integer"⟩], [vpnsStep, realClients],
    ⟨"postProcess", "listVpns", false⟩, none⟩

def probing : List ExecAction :=
  [.next, .single 0 .call, .single 0 .answer,
    .single 0 (.finish fun _ _ _ => .ok [("data", .arr [vpnRow "default" 2, .null])]), .join,
    .next, .fan 1 .check, .fan 1 .select, .fan 1 (.worker 0 .call)]

def keepResults (stepResults : List (String × Object)) : Except Chain Object :=
  .ok (stepResults.map fun entry => (entry.1, .obj entry.2))

theorem no_call_outlives_invalid_row : ∃ history s,
    Run (Execution.step vpnExecutor vpnHost keepResults) (execute listVpns [] false) history s ∧
    (∀ p ∈ history, patient vpnHost p = true) ∧ s.isOver = true ∧
    ∀ part ∈ s.parts, part.work.isCalling = false := by
  obtain ⟨s, done, waits, past⟩ : ∃ s,
      exec (Execution.step vpnExecutor vpnHost keepResults) (execute listVpns [] false)
        (probing ++ [.fan 1 (.worker 0 .answer),
          .fan 1 (.worker 0 (.finish fun _ _ _ => .ok noClients)), .fan 1 .check, .join]) = some s ∧
      (trace (Execution.step vpnExecutor vpnHost keepResults) (execute listVpns [] false)
        (probing ++ [.fan 1 (.worker 0 .answer),
          .fan 1 (.worker 0 (.finish fun _ _ _ => .ok noClients)), .fan 1 .check, .join])).all
        (patient vpnHost) = true ∧ s.isOver = true := ⟨_, rfl, rfl, rfl⟩
  have run := run_of_exec done
  have waits := List.all_eq_true.mp waits
  exact ⟨_, s, run, waits, past,
    no_call_outlives vpnExecutor vpnHost keepResults listVpns [] false run waits past⟩

/-- The loop gets to the invalid row first. `Execute` has returned its error, and the probe is still
going on. -/
theorem call_outlives_execute : ∃ history s err,
    Run (Execution.step vpnExecutor vpnHost keepResults) (execute listVpns [] false) history s ∧
    s.phase = .returned (.error err) ∧ ∃ part ∈ s.parts, part.work.isCalling = true := by
  obtain ⟨s, err, done, returned, calling⟩ : ∃ s err,
      exec (Execution.step vpnExecutor vpnHost keepResults) (execute listVpns [] false)
        (probing ++ [.fan 1 .check, .join]) = some s ∧ s.phase = .returned (.error err) ∧
      ∃ part ∈ s.parts, part.work.isCalling = true :=
    ⟨_, _, rfl, rfl, _, .tail _ (.head _), rfl⟩
  exact ⟨_, s, err, run_of_exec done, returned, calling⟩

end BrokerMcp.Proof.Composite
