import BrokerMcp.Proof.Composite.Orderly

namespace BrokerMcp.Proof.Composite
open Resilience BrokerMcp.Composite
open Transition

variable {ce : CompositeExecutor} {host : Host}
variable {applyResultStrategy : List (String × Object) → Except Chain Object}
variable {tool : CompositeTool} {s t : Execution} {a : ExecAction}

structure FannedFrom (ce : CompositeExecutor) (host : Host) (now : ExecuteContext) (step : Step)
    (fan : FanOut) (began : ExecuteContext) : Prop where
  begun : ∃ start, fetchFanOut ce step began = .ok start ∧
    Sound ce host step began start.items fan
  whole : Whole fan
  earlier : began.stepResults ⊆ now.stepResults
  current : (∃ result, fan.loop = .returned (.ok result)) ∨ began = now

def FannedWork (ce : CompositeExecutor) (host : Host) (now : ExecuteContext) (step : Step) :
    Work → Prop
  | .fanOut fan => ∃ began, FannedFrom ce host now step fan began
  | .single _ => step.forEach = ""
  | .refused _ => True

def Fanned (ce : CompositeExecutor) (host : Host) (s : Execution) : Prop :=
  ∀ (j : Nat) (part : Part), s.parts[j]? = some part →
    FannedWork ce host s.execCtx part.step part.work

/-- The step does not break a dispatch loop off before a row has failed. -/
def Unbroken (p : Execution × ExecAction) : Prop :=
  ∀ j part fan, p.2 = .fan j .select → p.1.parts[j]? = some part → part.work = .fanOut fan →
    p.1.groupEnded = true → fan.failure.isSome = true

theorem still_of_succeeded {step : Step} {execCtx now : ExecuteContext} {ended : Bool}
    {fan fan' : FanOut} {a : FanAction} (recorded : Recorded ce host step execCtx fan)
    {result : Object} (returned : fan.loop = .returned (.ok result))
    (moves : FanMoves ce host step now ended fan a fan') : False := by
  obtain ⟨joined, -, -⟩ := recorded.returned result returned
  cases moves with
  | exhausts loop _ | rejects loop _ | skips loop _ _ | takes loop _ _ _ | breaks loop _
  | spawns loop _ _ _ | fails loop _ _ | succeeds loop _ _ =>
      rw [returned] at loop
      cases loop
  | advances here moved =>
      have past := recorded.past _ _ here (joined _ (List.mem_of_getElem? here))
      exact absurd past (by simp [(move_inv moved).1])
  | settles here _ unsettled =>
      have settled := joined _ (List.mem_of_getElem? here)
      exact absurd settled (by simp [unsettled])

theorem FannedFrom.move {step : Step} {now began : ExecuteContext} {ended : Bool}
    {fan fan' : FanOut} {a : FanAction} (fanned : FannedFrom ce host now step fan began)
    (moves : FanMoves ce host step now ended fan a fan')
    (goes : a = .select → ended = true → fan.failure.isSome = true) :
    FannedFrom ce host now step fan' began := by
  obtain ⟨start, begun, sound⟩ := fanned.begun
  rcases fanned.current with ⟨result, returned⟩ | rfl
  · exact (still_of_succeeded sound.recorded returned moves).elim
  · exact ⟨⟨start, begun, sound.move moves⟩, fanned.whole.move sound.dispatched moves goes,
      fanned.earlier, .inr rfl⟩

theorem FannedFrom.past {step : Step} {now later began : ExecuteContext} {fan : FanOut}
    (fanned : FannedFrom ce host now step fan began)
    (longer : now.stepResults ⊆ later.stepResults) {result : Object}
    (returned : fan.loop = .returned (.ok result)) :
    FannedFrom ce host later step fan began :=
  ⟨fanned.begun, fanned.whole, List.Subset.trans fanned.earlier longer, .inl ⟨result, returned⟩⟩

theorem runStep_fanned (step : Step) (now : ExecuteContext) :
    FannedWork ce host now step (runStep ce step now) := by
  unfold runStep
  split_ifs with fans
  · split
    · next fan begun =>
        have first : Sound ce host step now fan.items fan ∧ Whole fan := sound_start begun
        obtain ⟨sound, whole⟩ := first
        exact ⟨now, ⟨fan, begun, sound⟩, whole, List.Subset.refl _, .inr rfl⟩
    · trivial
  · exact not_not.mp fans

theorem fanned_start {params : Object} {ended : Bool} :
    Fanned ce host (execute tool params ended) := by
  intro j part here
  cases here

theorem Fanned.begin (fanned : Fanned ce host s) (batch : ExecutionBatch)
    (rest : List ExecutionBatch) : Fanned ce host (s.begin ce batch rest) := by
  intro j part here
  simp only [Execution.begin, List.getElem?_append] at here
  split_ifs at here
  · exact fanned j part here
  · obtain ⟨step, -, rfl⟩ := List.mem_map.mp (List.mem_of_getElem? here)
    exact runStep_fanned step s.execCtx

theorem Fanned.join (fanned : Fanned ce host s) (advances : Advances tool s a t)
    (params : t.params = s.params) (parts : t.parts = s.parts)
    (settled : t.stepResults = s.stepResults ∨ t.phase = .looping) : Fanned ce host t := by
  rcases settled with same | looping
  · have now : t.execCtx = s.execCtx := by rw [Execution.execCtx, params, same, Execution.execCtx]
    intro j part here
    rw [now]
    exact fanned j part (parts ▸ here)
  · obtain ⟨n, stored, progress⟩ := advances.orderly.stored
    rw [looping] at progress
    intro j part here
    have before := fanned j part (parts ▸ here)
    obtain ⟨data, past⟩ := stored.succeeded j part here (progress.trans_gt (Cells.lt_of_some here))
    cases work : part.work with
    | single thread =>
        rw [work] at before
        exact before
    | refused err => trivial
    | fanOut fan =>
        rw [work] at before past
        obtain ⟨began, source⟩ := before
        have longer : s.execCtx.stepResults ⊆ t.execCtx.stepResults := by
          show s.stepResults ⊆ t.stepResults
          rw [advances.adds]
          exact List.subset_append_left _ _
        exact ⟨began, source.past longer (loop_of_result past)⟩

theorem Fanned.move (fanned : Fanned ce host s) (orderly : Orderly tool s)
    (loaded : Loaded tool.steps) (moves : ExecMoves ce host s a t) (goes : Unbroken (s, a)) :
    Fanned ce host t := by
  have advances := orderly.move loaded moves
  cases moves with
  | cancels | concludes _ _ => exact fanned
  | begins _ _ => exact fanned.begin _ _
  | single here work moved =>
      have before := fanned _ _ here
      rw [work] at before
      exact Cells.forall_set here fanned before
  | fan here work moves =>
      have before := fanned _ _ here
      rw [work] at before
      obtain ⟨began, source⟩ := before
      refine Cells.forall_set here fanned ⟨began, source.move moves ?_⟩
      rintro rfl ended
      exact goes _ _ _ rfl here work ended
  | settles here _ _ _ _ =>
      have before := fanned _ _ here
      exact Cells.forall_set here fanned before
  | @joinsStep part result _ _ _ =>
      apply fanned.join advances rfl rfl
      cases result with
      | error err => exact .inl rfl
      | ok data => exact .inr rfl
  | @joinsBatch results failure _ _ =>
      apply fanned.join advances rfl rfl
      cases failure with
      | none => exact .inr rfl
      | some err => exact .inl rfl

structure Accountable (ce : CompositeExecutor) (host : Host) (tool : CompositeTool)
    (s : Execution) : Prop where
  orderly : Orderly tool s
  fanned : Fanned ce host s

theorem run_accountable (loaded : Loaded tool.steps) {params : Object} {ended : Bool}
    {history : List (Execution × ExecAction)}
    (run : Run (Execution.step ce host applyResultStrategy) (execute tool params ended) history s)
    (unbroken : ∀ p ∈ history, Unbroken p) : Accountable ce host tool s := by
  apply run.invariant_of unbroken
  · exact ⟨orderly_start, fanned_start⟩
  · intro s a t before goes taken
    have moves := step_execMoves taken
    exact ⟨(before.orderly.move loaded moves).orderly,
      before.fanned.move before.orderly loaded moves goes⟩

theorem fetchFanOut_parent {step : Step} {execCtx : ExecuteContext} {start : FanOut}
    (begun : fetchFanOut ce step execCtx = .ok start) :
    ∃ parent, execCtx.stepResults.lookup step.forEach = some parent ∧
      ∀ items, parent.arr? "data" = some items → start.items = items := by
  unfold fetchFanOut at begun
  cases known : execCtx.stepResults.lookup step.forEach with
  | none =>
      rw [known] at begun
      cases begun
  | some parent =>
      refine ⟨parent, rfl, ?_⟩
      intro items rows
      obtain ⟨v, found, shape⟩ := Option.bind_eq_some_iff.mp rows
      cases v with
      | arr items' =>
          obtain rfl := Option.some.inj shape
          simp only [known, found] at begun
          split_ifs at begun
          rw [← Except.ok.inj begun]
      | _ => cases shape

theorem Dispatched.row_of_worker {step : Step} {execCtx : ExecuteContext} {fan : FanOut}
    (dispatched : Dispatched host step execCtx fan) {worker : Worker}
    (member : worker ∈ fan.workers) :
    ∃ raw, fan.items[worker.index]? = some raw ∧
      readRow host step execCtx worker.index raw = .ok (some (worker.row, worker.key)) := by
  have head : Worker.head worker ∈ (rowsDone fan).filterMap (kept host step execCtx) := by
    rw [← dispatched.heads]
    exact List.mem_map_of_mem member
  obtain ⟨⟨raw, i⟩, done, found⟩ := List.mem_filterMap.mp head
  unfold kept at found
  split at found
  · next row key read =>
      obtain ⟨rfl, rfl, rfl⟩ : i = worker.index ∧ row = worker.row ∧ key = worker.key := by
        simpa [Worker.head] using found
      exact ⟨raw, List.mk_mem_zipIdx_iff_getElem?.mp (List.mem_of_mem_take done), read⟩
  · cases found

structure Finished (worker : Worker) (row : Object) (key : String) (data : Object) : Prop where
  own : worker.row = row
  named : worker.key = key
  thread : worker.thread = .finished (.ok data)

structure Ends (ce : CompositeExecutor) (host : Host) (execCtx : ExecuteContext) (step : Step)
    (worker : Worker) (row : Object) (key : String) (client : Client) (data : Object) : Prop where
  own : worker.row = row
  named : worker.key = key
  result : runSingle ce host step client { execCtx with item := some row } = .ok data

theorem moved_to_finished {work : Client → Except Chain Object} {thread : Thread} {move : Move}
    {result : Except Chain Object} (moved : thread.move work move = some (.finished result)) :
    ∃ client, move = .finish client ∧ work client = result := by
  cases thread <;> cases move <;> simp only [Thread.move, Option.some.injEq, reduceCtorEq] at moved
  exact ⟨_, rfl, Thread.finished.inj moved⟩

theorem finished_of_moves {step : Step} {execCtx : ExecuteContext} {ended : Bool}
    {fan fan' : FanOut} {a : FanAction} {w : Nat} {worker : Worker} {row : Object} {key : String}
    {data : Object} (moves : FanMoves ce host step execCtx ended fan a fan')
    (here : fan'.workers[w]? = some worker) (finished : Finished worker row key data) :
    (∃ old, fan.workers[w]? = some old ∧ Finished old row key data) ∨
      ∃ old client, a = .worker w (.finish client) ∧ fan.workers[w]? = some old ∧
        Ends ce host execCtx step old row key client data := by
  cases moves with
  | exhausts _ _ | rejects _ _ | skips _ _ _ | takes _ _ _ _ | breaks _ _ | fails _ _ _
  | succeeds _ _ _ => exact .inl ⟨worker, here, finished⟩
  | spawns _ _ _ _ =>
      rw [Cells.getElem?_snoc] at here
      split_ifs at here
      · obtain rfl := Option.some.inj here
        cases finished.thread
      · exact .inl ⟨worker, here, finished⟩
  | @advances v old move thread there moved =>
      rw [Cells.getElem?_set_of_some there] at here
      split_ifs at here with same
      · subst same
        obtain rfl := Option.some.inj here
        obtain ⟨rfl, rfl, rfl⟩ := finished
        obtain ⟨client, rfl, result⟩ := moved_to_finished moved
        exact .inr ⟨old, client, rfl, there, rfl, rfl, mapError_ok result⟩
      · exact .inl ⟨worker, here, finished⟩
  | @settles v old result there _ _ =>
      rw [Cells.getElem?_set_of_some there] at here
      split_ifs at here with same
      · subst same
        obtain rfl := Option.some.inj here
        exact .inl ⟨old, there, finished.own, finished.named, finished.thread⟩
      · exact .inl ⟨worker, here, finished⟩

def WorkerAt (parts : List Part) (j w : Nat) (step : Step) (worker : Worker) : Prop :=
  ∃ part fan, parts[j]? = some part ∧ part.step = step ∧ part.work = .fanOut fan ∧
    fan.workers[w]? = some worker

theorem WorkerAt.of_set {parts : List Part} {i j w : Nat} {step : Step} {worker : Worker}
    {part part' : Part} (here : parts[i]? = some part)
    (stands : WorkerAt (parts.set i part') j w step worker) :
    WorkerAt parts j w step worker ∨ j = i ∧ part'.step = step ∧
      ∃ fan, part'.work = .fanOut fan ∧ fan.workers[w]? = some worker := by
  obtain ⟨other, fan, there, named, work, inside⟩ := stands
  rw [Cells.getElem?_set_of_some here] at there
  split_ifs at there with same
  · obtain rfl := Option.some.inj there
    exact .inr ⟨same, named, fan, work, inside⟩
  · exact .inl ⟨other, fan, there, named, work, inside⟩

theorem WorkerAt.of_begin {batch : ExecutionBatch} {rest : List ExecutionBatch} {j w : Nat}
    {step : Step} {worker : Worker} (stands : WorkerAt (s.begin ce batch rest).parts j w step worker) :
    WorkerAt s.parts j w step worker := by
  obtain ⟨part, fan, here, named, work, inside⟩ := stands
  simp only [Execution.begin, List.getElem?_append] at here
  split_ifs at here
  · exact ⟨part, fan, here, named, work, inside⟩
  · obtain ⟨other, -, rfl⟩ := List.mem_map.mp (List.mem_of_getElem? here)
    unfold runStep at work
    split_ifs at work
    split at work
    · next begun =>
        obtain ⟨items, rfl⟩ := fetchFanOut_ok begun
        obtain rfl := Work.fanOut.inj work
        cases inside
    · cases work

theorem finished_of_execMoves {j w : Nat} {step : Step} {worker : Worker} {row : Object}
    {key : String} {data : Object} (moves : ExecMoves ce host s a t)
    (stands : WorkerAt t.parts j w step worker) (finished : Finished worker row key data) :
    (∃ old, WorkerAt s.parts j w step old ∧ Finished old row key data) ∨
      ∃ old client, a = .fan j (.worker w (.finish client)) ∧ WorkerAt s.parts j w step old ∧
        Ends ce host s.execCtx step old row key client data := by
  cases moves with
  | cancels | concludes _ _ | joinsStep _ _ _ | joinsBatch _ _ =>
      exact .inl ⟨worker, stands, finished⟩
  | begins _ _ => exact .inl ⟨worker, stands.of_begin, finished⟩
  | single here _ _ =>
      rcases stands.of_set here with old | ⟨-, -, fan, work, -⟩
      · exact .inl ⟨worker, old, finished⟩
      · cases work
  | @fan i part fan fan' a here work moves =>
      rcases stands.of_set here with old | ⟨rfl, rfl, fan', same, inside⟩
      · exact .inl ⟨worker, old, finished⟩
      · obtain rfl := Work.fanOut.inj same
        rcases finished_of_moves moves inside finished with ⟨old, there, before⟩ |
          ⟨old, client, rfl, there, ends⟩
        · exact .inl ⟨old, ⟨part, fan, here, rfl, work, there⟩, before⟩
        · exact .inr ⟨old, client, rfl, ⟨part, fan, here, rfl, work, there⟩, ends⟩
  | @settles i part result results failure here _ _ _ _ =>
      rcases stands.of_set here with old | ⟨rfl, named, fan, work, inside⟩
      · exact .inl ⟨worker, old, finished⟩
      · exact .inl ⟨worker, ⟨part, fan, here, named, work, inside⟩, finished⟩

theorem run_ends {params : Object} {ended : Bool} {history : List (Execution × ExecAction)}
    (run : Run (Execution.step ce host applyResultStrategy) (execute tool params ended) history s)
    {j w : Nat} {step : Step} {worker : Worker} {row : Object} {key : String} {data : Object}
    (stands : WorkerAt s.parts j w step worker) (finished : Finished worker row key data) :
    ∃ p ∈ history, ∃ old client, p.2 = .fan j (.worker w (.finish client)) ∧
      WorkerAt p.1.parts j w step old ∧ Ends ce host p.1.execCtx step old row key client data := by
  have made : (∃ old, WorkerAt (execute tool params ended).parts j w step old ∧
      Finished old row key data) ∨ ∃ p ∈ history, ∃ old client,
        p.2 = .fan j (.worker w (.finish client)) ∧ WorkerAt p.1.parts j w step old ∧
        Ends ce host p.1.execCtx step old row key client data := by
    apply run.origin
      (motive := fun s => ∃ old, WorkerAt s.parts j w step old ∧ Finished old row key data)
    · exact ⟨worker, stands, finished⟩
    · rintro s a t taken ⟨old, stands, finished⟩
      exact finished_of_execMoves (step_execMoves taken) stands finished
  rcases made with ⟨old, first, -⟩ | found
  · obtain ⟨part, fan, here, -⟩ := first
    cases here
  · exact found

def Concluded (applyResultStrategy : List (String × Object) → Except Chain Object)
    (s : Execution) : Prop :=
  ∀ out, s.phase = .returned (.ok out) → applyResultStrategy s.stepResults = .ok out

theorem Concluded.step (concluded : Concluded applyResultStrategy s)
    (taken : s.step ce host applyResultStrategy a = some t) : Concluded applyResultStrategy t := by
  cases step_execMoves taken with
  | cancels | single _ _ _ | fan _ _ _ => exact concluded
  | concludes looping done =>
      simp only [Execution.step, looping, done, Option.some.injEq] at taken
      intro out returned
      have same := (congrArg Execution.phase taken).trans returned
      exact ExecPhase.returned.inj same
  | begins _ _ =>
      intro out returned
      unfold Execution.begin at returned
      split_ifs at returned
  | settles _ _ _ _ _ =>
      intro out returned
      cases returned
  | @joinsStep part result _ _ _ =>
      intro out returned
      have returned : afterStep part result = .returned (.ok out) := returned
      unfold afterStep at returned
      split at returned
      · cases returned
      · split_ifs at returned
        cases returned
  | @joinsBatch results failure _ _ =>
      intro out returned
      have returned : afterBatch failure = .returned (.ok out) := returned
      cases failure <;> cases returned

theorem run_concluded {params : Object} {ended : Bool} {history : List (Execution × ExecAction)}
    (run : Run (Execution.step ce host applyResultStrategy) (execute tool params ended) history s) :
    Concluded applyResultStrategy s := by
  refine (run.invariant (motive := Concluded applyResultStrategy) ?_ ?_).1
  · intro out returned
    cases returned
  · intro s a t concluded taken
    exact concluded.step taken

structure FanResult (host : Host) (s : Execution) (step : Step) (began : ExecuteContext)
    (items : List Value) (byKey : Object) : Prop where
  result : ∃ skipped, s.stepResults.lookup step.id = some (fanOutResult byKey skipped)
  parent : ∃ parent, s.stepResults.lookup step.forEach = some parent ∧
    ∀ rows, parent.arr? "data" = some rows → items = rows
  rows : ∀ (i : Nat) (raw : Value), items[i]? = some raw →
    readRow host step began i raw = .ok none ∨ ∃ row key data,
      readRow host step began i raw = .ok (some (row, key)) ∧ byKey.lookup key = some (.obj data)
  entries : ∀ key v, byKey.lookup key = some v → ∃ j w worker row data i raw,
    WorkerAt s.parts j w step worker ∧ Finished worker row key data ∧ v = .obj data ∧
      items[i]? = some raw ∧ readRow host step began i raw = .ok (some (row, key))

theorem FannedFrom.result {step : Step} {now began : ExecuteContext} {fan : FanOut}
    (fanned : FannedFrom ce host now step fan began) {result : Object}
    (returned : fan.loop = .returned (.ok result)) :
    ∃ start skipped, fetchFanOut ce step began = .ok start ∧
      result = fanOutResult fan.byKey skipped ∧
      Accounted host step began start.items fan.workers fan.byKey skipped ∧
      Sound ce host step began start.items fan := by
  obtain ⟨start, begun, sound⟩ := fanned.begun
  obtain ⟨-, -, made⟩ := sound.recorded.returned result returned
  have all := fanned.whole.returned result returned
  have accounted := accounted_of_all sound.dispatched sound.recorded returned all
  exact ⟨start, fan.skipped, begun, made, sound.items ▸ accounted, sound⟩

theorem Accountable.fanResult (accountable : Accountable ce host tool s)
    (loaded : Loaded tool.steps) {out : Object} (concluded : s.phase = .returned (.ok out))
    {step : Step} (declared : step ∈ tool.steps) (fans : step.forEach ≠ "") :
    ∃ began items byKey, FanResult host s step began items byKey := by
  have distinct := accountable.orderly.nodup loaded
  obtain ⟨n, stored, progress⟩ := accountable.orderly.stored
  rw [concluded] at progress
  obtain ⟨rfl, last⟩ := progress
  have order := accountable.orderly.order
  rw [last, List.flatMap_nil, List.append_nil] at order
  rw [← order] at declared
  obtain ⟨part, member, rfl⟩ := List.mem_map.mp declared
  obtain ⟨j, here⟩ := List.mem_iff_getElem?.mp member
  obtain ⟨data, past, entry⟩ := stored.all member
  have fanned := accountable.fanned j part here
  cases work : part.work with
  | single thread =>
      rw [work] at fanned
      exact absurd fanned fans
  | refused err =>
      rw [work] at past
      cases past
  | fanOut fan =>
      rw [work] at fanned past
      obtain ⟨began, source⟩ := fanned
      obtain ⟨start, skipped, begun, rfl, accounted, sound⟩ := source.result (loop_of_result past)
      obtain ⟨parent, known, rows⟩ := fetchFanOut_parent begun
      refine ⟨began, start.items, fan.byKey, ?_, ?_, ?_, ?_⟩
      · exact ⟨skipped, (Assoc.lookup_eq_some_iff distinct).mpr entry⟩
      · have there := source.earlier (Assoc.mem_of_lookup known)
        exact ⟨parent, (Assoc.lookup_eq_some_iff distinct).mpr there, rows⟩
      · intro i raw found
        rcases accounted.rows i raw found with skips | ⟨worker, -, data, -, read, -, stands⟩
        · exact .inl skips
        · exact .inr ⟨worker.row, worker.key, data, read, stands⟩
      · intro key v found
        obtain ⟨w, worker, stands, rfl, data, finished, rfl⟩ := (sound.recorded.byKey key v).mp found
        obtain ⟨raw, inside, read⟩ := sound.dispatched.row_of_worker (List.mem_of_getElem? stands)
        rw [sound.items] at inside
        exact ⟨j, w, worker, worker.row, data, worker.index, raw, ⟨part, fan, here, rfl, work, stands⟩,
          ⟨rfl, rfl, finished⟩, rfl, inside, read⟩

end BrokerMcp.Proof.Composite
