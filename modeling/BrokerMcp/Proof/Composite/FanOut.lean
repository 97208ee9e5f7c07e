import BrokerMcp.Library.Cells
import BrokerMcp.Library.Trace
import BrokerMcp.Composite.FanOut

namespace BrokerMcp.Proof.Composite
open Resilience BrokerMcp.Composite
open Transition

variable {ce : CompositeExecutor} {host : Host} {step : Step} {execCtx : ExecuteContext}
variable {ended : Bool} {fan fan' : FanOut} {a : FanAction}

theorem move_inv {work : Client → Except Chain Object} {thread next : Thread} {move : Move}
    (moved : thread.move work move = some next) :
    thread.isOver = false ∧
      (next.result? = none ∨ (∃ client, next = .finished (work client)) ∨
        ∃ kind, next = .panicked kind) := by
  cases thread <;> cases move <;> simp only [Thread.move, Option.some.injEq, reduceCtorEq] at moved
  all_goals subst moved
  all_goals simp [Thread.isOver, Thread.result?]

def Rejects (host : Host) (step : Step) (execCtx : ExecuteContext) (fan : FanOut) (err : Chain) :
    Prop :=
  (fan.check host step execCtx).loop = .returned (.error err)

section moves

variable (ce : CompositeExecutor) (host : Host) (step : Step) (execCtx : ExecuteContext)

inductive FanMoves (ended : Bool) (fan : FanOut) : FanAction → FanOut → Prop where
  | exhausts (dispatching : fan.loop = .dispatching) (last : fan.items[fan.next]? = none) :
      FanMoves ended fan .check { fan with loop := .waiting }
  | rejects {err : Chain} (dispatching : fan.loop = .dispatching)
      (invalid : Rejects host step execCtx fan err) :
      FanMoves ended fan .check { fan with loop := .returned (.error err) }
  | skips {raw : Value} (dispatching : fan.loop = .dispatching)
      (here : fan.items[fan.next]? = some raw)
      (read : readRow host step execCtx fan.next raw = .ok none) :
      FanMoves ended fan .check { fan with skipped := fan.skipped + 1, next := fan.next + 1 }
  | takes {raw : Value} {row : Object} {key : String} (dispatching : fan.loop = .dispatching)
      (here : fan.items[fan.next]? = some raw)
      (read : readRow host step execCtx fan.next raw = .ok (some (row, key)))
      (fresh : fan.seenKeys.lookup key = none) :
      FanMoves ended fan .check
        { fan with seenKeys := Assoc.put key fan.next fan.seenKeys, loop := .selecting row key }
  | breaks {row : Object} {key : String} (selecting : fan.loop = .selecting row key)
      (past : ended = true ∨ fan.failure.isSome = true) :
      FanMoves ended fan .select { fan with loop := .waiting }
  | spawns {row : Object} {key : String} (selecting : fan.loop = .selecting row key)
      (live : ended = false) (sound : fan.failure = none)
      (room : fan.held < concurrencyOf step) :
      FanMoves ended fan .select { fan with
        workers := fan.workers ++ [⟨fan.next, row, key, .running, false⟩]
        next := fan.next + 1
        loop := .dispatching }
  | advances {w : Nat} {worker : Worker} {move : Move} {thread : Thread}
      (here : fan.workers[w]? = some worker)
      (moved : worker.thread.move (worker.work ce host step execCtx) move = some thread) :
      FanMoves ended fan (.worker w move) { fan with
        workers := fan.workers.set w { worker with thread := thread }
        byKey := fan.recorded worker.key thread }
  | settles {w : Nat} {worker : Worker} {result : Except Chain Object}
      (here : fan.workers[w]? = some worker) (past : worker.thread.result? = some result)
      (unsettled : worker.settled = false) :
      FanMoves ended fan (.settle w) { fan with
        workers := fan.workers.set w { worker with settled := true }
        failure := firstError fan.failure result }
  | fails {err : Chain} (waiting : fan.loop = .waiting)
      (joined : ∀ worker ∈ fan.workers, worker.settled = true)
      (failed : fan.failure = some err) :
      FanMoves ended fan .wait { fan with loop := .returned (.error (inStep step err)) }
  | succeeds (waiting : fan.loop = .waiting)
      (joined : ∀ worker ∈ fan.workers, worker.settled = true) (sound : fan.failure = none) :
      FanMoves ended fan .wait
        { fan with loop := .returned (.ok (fanOutResult fan.byKey fan.skipped)) }

end moves

theorem check_moves (dispatching : fan.loop = .dispatching) :
    FanMoves ce host step execCtx ended fan .check (fan.check host step execCtx) := by
  cases here : fan.items[fan.next]? with
  | none =>
      have stops : fan.check host step execCtx = { fan with loop := .waiting } := by
        rw [FanOut.check, here]
      exact stops ▸ .exhausts dispatching here
  | some raw =>
      cases read : readRow host step execCtx fan.next raw with
      | error err =>
          have leaves : fan.check host step execCtx = { fan with loop := .returned (.error err) } := by
            simp only [FanOut.check, here, read]
          exact leaves ▸ .rejects dispatching (by rw [Rejects, leaves])
      | ok found =>
          cases found with
          | none =>
              have passes : fan.check host step execCtx =
                  { fan with skipped := fan.skipped + 1, next := fan.next + 1 } := by
                simp only [FanOut.check, here, read]
              exact passes ▸ .skips dispatching here read
          | some found =>
              obtain ⟨row, key⟩ := found
              cases seen : fan.seenKeys.lookup key with
              | some prev =>
                  have leaves : fan.check host step execCtx = { fan with
                      loop := .returned (.error (duplicateKey step key fan.next prev)) } := by
                    simp only [FanOut.check, here, read, seen]
                  exact leaves ▸ .rejects dispatching (by rw [Rejects, leaves])
              | none =>
                  have takes : fan.check host step execCtx = { fan with
                      seenKeys := Assoc.put key fan.next fan.seenKeys
                      loop := .selecting row key } := by
                    simp only [FanOut.check, here, read, seen]
                  exact takes ▸ .takes dispatching here read seen

theorem select_moves {row : Object} {key : String} (selecting : fan.loop = .selecting row key)
    (moved : fan.select step ended row key = some fan') :
    FanMoves ce host step execCtx ended fan .select fan' := by
  unfold FanOut.select at moved
  split_ifs at moved with past room
  · obtain rfl := Option.some.inj moved
    exact .breaks selecting (by simpa using past)
  · obtain rfl := Option.some.inj moved
    obtain ⟨live, sound⟩ : ended = false ∧ fan.failure = none := by simpa using past
    exact .spawns selecting live sound room

theorem moveWorker_moves {w : Nat} {move : Move}
    (moved : fan.moveWorker ce host step execCtx w move = some fan') :
    FanMoves ce host step execCtx ended fan (.worker w move) fan' := by
  obtain ⟨worker, here, moved⟩ := Option.bind_eq_some_iff.mp moved
  obtain ⟨thread, moves, moved⟩ := Option.bind_eq_some_iff.mp moved
  obtain rfl := Option.some.inj moved
  exact .advances here moves

theorem settle_moves {w : Nat} (moved : fan.settle w = some fan') :
    FanMoves ce host step execCtx ended fan (.settle w) fan' := by
  obtain ⟨worker, here, moved⟩ := Option.bind_eq_some_iff.mp moved
  obtain ⟨result, past, moved⟩ := Option.bind_eq_some_iff.mp moved
  split_ifs at moved with settled
  obtain rfl := Option.some.inj moved
  exact .settles here past (by simpa using settled)

theorem wait_moves (waiting : fan.loop = .waiting) (moved : fan.wait step = some fan') :
    FanMoves ce host step execCtx ended fan .wait fan' := by
  unfold FanOut.wait at moved
  split_ifs at moved with joined
  obtain rfl := Option.some.inj moved
  have joined := List.all_eq_true.mp joined
  cases failed : fan.failure with
  | some err => simpa only [failed] using FanMoves.fails waiting joined failed
  | none => simpa only [failed] using FanMoves.succeeds waiting joined failed

theorem act_moves (moved : fan.act ce host step execCtx ended a = some fan') :
    FanMoves ce host step execCtx ended fan a fan' := by
  unfold FanOut.act at moved
  split at moved
  · split at moved
    · next dispatching =>
        obtain rfl := Option.some.inj moved
        exact check_moves dispatching
    · cases moved
  · split at moved
    · next selecting => exact select_moves selecting moved
    · cases moved
  · exact moveWorker_moves moved
  · exact settle_moves moved
  · split at moved
    · next waiting => exact wait_moves waiting moved
    · cases moved

theorem fetchFanOut_ok {start : FanOut} (begun : fetchFanOut ce step execCtx = .ok start) :
    ∃ items, start = ⟨items, 0, [], 0, [], [], none, .dispatching⟩ := by
  unfold fetchFanOut at begun
  dsimp only at begun
  repeat' split at begun
  all_goals cases begun
  all_goals exact ⟨_, rfl⟩

section rows

variable (host : Host) (step : Step) (execCtx : ExecuteContext)

def isSkipped (entry : Value × Nat) : Bool :=
  match readRow host step execCtx entry.2 entry.1 with
  | .ok none => true
  | _ => false

def kept (entry : Value × Nat) : Option (Nat × Object × String) :=
  match readRow host step execCtx entry.2 entry.1 with
  | .ok (some (row, key)) => some (entry.2, row, key)
  | _ => none

def keptKeys (items : List Value) : List String :=
  (items.zipIdx.filterMap (kept host step execCtx)).map fun head => head.2.2

end rows

def Worker.head (worker : Worker) : Nat × Object × String := (worker.index, worker.row, worker.key)

def keysOf (workers : List Worker) : List String := workers.map Worker.key

def rowsDone (fan : FanOut) : List (Value × Nat) := fan.items.zipIdx.take fan.next

structure Dispatched (host : Host) (step : Step) (execCtx : ExecuteContext) (fan : FanOut) :
    Prop where
  within : fan.next ≤ fan.items.length
  valid : ∀ entry ∈ rowsDone fan, ∃ found, readRow host step execCtx entry.2 entry.1 = .ok found
  skipped : fan.skipped = (rowsDone fan).countP (isSkipped host step execCtx)
  heads : fan.workers.map Worker.head = (rowsDone fan).filterMap (kept host step execCtx)
  nodup : (keysOf fan.workers).Nodup
  seen : ∀ key ∈ keysOf fan.workers, fan.seenKeys.lookup key ≠ none
  selecting : ∀ row key, fan.loop = .selecting row key →
    key ∉ keysOf fan.workers ∧ fan.seenKeys.lookup key ≠ none ∧
      ∃ raw, fan.items[fan.next]? = some raw ∧
        readRow host step execCtx fan.next raw = .ok (some (row, key))

theorem zipIdx_take_succ {items : List Value} {i : Nat} {raw : Value} (here : items[i]? = some raw) :
    items.zipIdx.take (i + 1) = items.zipIdx.take i ++ [(raw, i)] := by
  rw [List.take_add_one, List.getElem?_zipIdx, here]
  simp

theorem forall_take_succ {items : List Value} {i : Nat} {raw : Value} {P : Value × Nat → Prop}
    (here : items[i]? = some raw) (earlier : ∀ entry ∈ items.zipIdx.take i, P entry)
    (new : P (raw, i)) : ∀ entry ∈ items.zipIdx.take (i + 1), P entry := by
  intro entry member
  rw [zipIdx_take_succ here, List.mem_append, List.mem_singleton] at member
  rcases member with before | rfl
  · exact earlier entry before
  · exact new

theorem Dispatched.of_same (dispatched : Dispatched host step execCtx fan)
    (items : fan'.items = fan.items) (next : fan'.next = fan.next)
    (seenKeys : fan'.seenKeys = fan.seenKeys) (skipped : fan'.skipped = fan.skipped)
    (heads : fan'.workers.map Worker.head = fan.workers.map Worker.head)
    (loop : ∀ row key, fan'.loop = .selecting row key → fan.loop = .selecting row key) :
    Dispatched host step execCtx fan' := by
  have same : rowsDone fan' = rowsDone fan := by rw [rowsDone, items, next, rowsDone]
  have keys : keysOf fan'.workers = keysOf fan.workers := by
    have heads := congrArg (List.map fun head : Nat × Object × String => head.2.2) heads
    rwa [List.map_map, List.map_map] at heads
  constructor
  · exact items ▸ next ▸ dispatched.within
  · exact same ▸ dispatched.valid
  · rw [same, skipped, dispatched.skipped]
  · rw [same, heads, dispatched.heads]
  · exact keys ▸ dispatched.nodup
  · exact keys ▸ seenKeys ▸ dispatched.seen
  · intro row key selecting
    rw [keys, seenKeys, items, next]
    exact dispatched.selecting row key (loop row key selecting)

theorem Dispatched.skip {raw : Value} (dispatched : Dispatched host step execCtx fan)
    (dispatching : fan.loop = .dispatching) (here : fan.items[fan.next]? = some raw)
    (read : readRow host step execCtx fan.next raw = .ok none) :
    Dispatched host step execCtx
      { fan with skipped := fan.skipped + 1, next := fan.next + 1 } := by
  have more := zipIdx_take_succ here
  constructor
  · exact Cells.lt_of_some here
  · exact forall_take_succ here dispatched.valid ⟨none, read⟩
  · rw [rowsDone, more, List.countP_append, List.countP_singleton]
    simp [isSkipped, read, dispatched.skipped, rowsDone]
  · rw [rowsDone, more, List.filterMap_append, ← rowsDone, ← dispatched.heads]
    simp [kept, read]
  · exact dispatched.nodup
  · exact dispatched.seen
  · intro row key selecting
    rw [dispatching] at selecting
    cases selecting

theorem Dispatched.take {raw : Value} {row : Object} {key : String}
    (dispatched : Dispatched host step execCtx fan) (here : fan.items[fan.next]? = some raw)
    (read : readRow host step execCtx fan.next raw = .ok (some (row, key)))
    (fresh : fan.seenKeys.lookup key = none) :
    Dispatched host step execCtx
      { fan with seenKeys := Assoc.put key fan.next fan.seenKeys, loop := .selecting row key } := by
  have seen : (Assoc.put key fan.next fan.seenKeys).lookup key ≠ none := by
    rw [Assoc.lookup_put, if_pos rfl]
    simp
  constructor
  · exact dispatched.within
  · exact dispatched.valid
  · exact dispatched.skipped
  · exact dispatched.heads
  · exact dispatched.nodup
  · intro other member
    rw [Assoc.lookup_put]
    split_ifs
    · simp
    · exact dispatched.seen other member
  · intro row' key' selecting
    obtain ⟨rfl, rfl⟩ : row = row' ∧ key = key' := by simpa using selecting
    exact ⟨fun member => dispatched.seen key member fresh, seen, raw, here, read⟩

theorem Dispatched.spawn {row : Object} {key : String}
    (dispatched : Dispatched host step execCtx fan) (selecting : fan.loop = .selecting row key) :
    Dispatched host step execCtx { fan with
      workers := fan.workers ++ [⟨fan.next, row, key, .running, false⟩]
      next := fan.next + 1
      loop := .dispatching } := by
  obtain ⟨fresh, seen, raw, here, read⟩ := dispatched.selecting row key selecting
  have more := zipIdx_take_succ here
  have keys : keysOf (fan.workers ++ [⟨fan.next, row, key, .running, false⟩]) =
      keysOf fan.workers ++ [key] := by simp [keysOf]
  constructor
  · exact Cells.lt_of_some here
  · exact forall_take_succ here dispatched.valid ⟨some (row, key), read⟩
  · rw [rowsDone, more, List.countP_append, List.countP_singleton]
    simp [isSkipped, read, dispatched.skipped, rowsDone]
  · rw [rowsDone, more, List.filterMap_append, ← rowsDone, ← dispatched.heads, List.map_append]
    simp [kept, read, Worker.head]
  · rw [keys]
    exact List.nodup_append.mpr ⟨dispatched.nodup, by simp, by
      intro other member key' new same
      obtain rfl : key' = key := by simpa using new
      exact fresh (same ▸ member)⟩
  · intro other member
    rw [keys, List.mem_append, List.mem_singleton] at member
    rcases member with earlier | rfl
    · exact dispatched.seen other earlier
    · exact seen
  · intro row' key' selecting
    cases selecting

theorem Dispatched.move (dispatched : Dispatched host step execCtx fan)
    (moves : FanMoves ce host step execCtx ended fan a fan') :
    Dispatched host step execCtx fan' := by
  cases moves with
  | exhausts _ _ | rejects _ _ | breaks _ _ | fails _ _ _ | succeeds _ _ _ =>
      exact dispatched.of_same rfl rfl rfl rfl rfl (by simp)
  | advances here _ | settles here _ _ =>
      exact dispatched.of_same rfl rfl rfl rfl (Cells.map_set_same here rfl) fun _ _ same => same
  | skips dispatching here read => exact dispatched.skip dispatching here read
  | takes _ here read fresh => exact dispatched.take here read fresh
  | spawns selecting _ _ _ => exact dispatched.spawn selecting

theorem position_of_key {workers : List Worker} (nodup : (keysOf workers).Nodup) {v w : Nat}
    {one other : Worker} (here : workers[v]? = some one) (there : workers[w]? = some other)
    (same : one.key = other.key) : v = w := by
  have bound : v < (keysOf workers).length := by
    rw [keysOf, List.length_map]
    exact Cells.lt_of_some here
  apply (List.getElem?_inj bound nodup).mp
  rw [keysOf, List.getElem?_map, List.getElem?_map, here, there, Option.map_some, Option.map_some,
    same]

def HasResult (key : String) (value : Value) (worker : Worker) : Prop :=
  worker.key = key ∧ ∃ data, worker.thread = .finished (.ok data) ∧ value = .obj data

def Holds (workers : List Worker) (key : String) (value : Value) : Prop :=
  ∃ (w : Nat) (worker : Worker), workers[w]? = some worker ∧ HasResult key value worker

section holds

variable {workers : List Worker} {w : Nat} {worker : Worker} {key : String} {value : Value}

theorem HasResult.isOver (done : HasResult key value worker) : worker.thread.isOver = true := by
  obtain ⟨-, data, finished, -⟩ := done
  rw [finished]
  rfl

theorem holds_set_same (here : workers[w]? = some worker) {next : Worker}
    (sameKey : next.key = worker.key) (sameThread : next.thread = worker.thread) :
    Holds (workers.set w next) key value ↔ Holds workers key value := by
  have same : HasResult key value next ↔ HasResult key value worker := by
    rw [HasResult, HasResult, sameKey, sameThread]
  rw [Holds, Holds, Cells.exists_set here, Cells.exists_at here, same]

theorem holds_set (here : workers[w]? = some worker) (running : worker.thread.isOver = false)
    (next : Worker) :
    Holds (workers.set w next) key value ↔
      HasResult key value next ∨ Holds workers key value := by
  have none : ¬ HasResult key value worker := fun done => by simp [done.isOver] at running
  rw [Holds, Holds, Cells.exists_set here, Cells.exists_at here]
  simp only [none, false_or]

theorem holds_snoc {next : Worker} (running : next.thread.isOver = false) :
    Holds (workers ++ [next]) key value ↔ Holds workers key value := by
  have none : ¬ HasResult key value next := fun done => by simp [done.isOver] at running
  rw [Holds, Holds, Cells.exists_snoc]
  simp only [none, false_or]

theorem not_holds_of_running (nodup : (keysOf workers).Nodup) (here : workers[w]? = some worker)
    (running : worker.thread.isOver = false) : ¬ Holds workers worker.key value := by
  rintro ⟨v, one, there, done⟩
  obtain rfl := position_of_key nodup there here done.1
  obtain rfl := Option.some.inj (here.symm.trans there)
  simp [done.isOver] at running

end holds

theorem lookup_recorded {w : Nat} {worker : Worker} {thread : Thread}
    (nodup : (keysOf fan.workers).Nodup) (here : fan.workers[w]? = some worker)
    (running : worker.thread.isOver = false)
    (byKey : ∀ key value, fan.byKey.lookup key = some value ↔ Holds fan.workers key value)
    (key : String) (value : Value) :
    (fan.recorded worker.key thread).lookup key = some value ↔
      Holds (fan.workers.set w { worker with thread := thread }) key value := by
  rw [holds_set here running, ← byKey]
  unfold FanOut.recorded
  split
  · next data =>
      rw [Assoc.lookup_put]
      split_ifs with same
      · subst same
        have empty : ¬ fan.byKey.lookup worker.key = some value := fun found =>
          not_holds_of_running nodup here running ((byKey _ _).mp found)
        simp [HasResult, empty, eq_comm]
      · simp [HasResult, Ne.symm same]
  · next other =>
      have unheld : ¬ HasResult key value { worker with thread := thread } := by
        rintro ⟨-, data, done, -⟩
        exact other data done
      simp [unheld]

theorem nodup_recorded {key : String} {thread : Thread}
    (distinct : (fan.byKey.map Prod.fst).Nodup) :
    ((fan.recorded key thread).map Prod.fst).Nodup := by
  unfold FanOut.recorded
  split
  · exact Assoc.nodup_put _ _ distinct
  · exact distinct

structure Recorded (ce : CompositeExecutor) (host : Host) (step : Step) (execCtx : ExecuteContext)
    (fan : FanOut) : Prop where
  distinct : (fan.byKey.map Prod.fst).Nodup
  byKey : ∀ key value, fan.byKey.lookup key = some value ↔ Holds fan.workers key value
  own : ∀ (w : Nat) (worker : Worker), fan.workers[w]? = some worker → ∀ result,
    worker.thread = .finished result → ∃ client, worker.work ce host step execCtx client = result
  past : ∀ (w : Nat) (worker : Worker), fan.workers[w]? = some worker →
    worker.settled = true → worker.thread.isOver = true
  failed : ∀ (w : Nat) (worker : Worker), fan.workers[w]? = some worker →
    worker.settled = true → ∀ err, worker.thread.result? = some (.error err) →
      fan.failure.isSome = true
  returned : ∀ result, fan.loop = .returned (.ok result) →
    (∀ worker ∈ fan.workers, worker.settled = true) ∧ fan.failure = none ∧
      result = fanOutResult fan.byKey fan.skipped

theorem isSome_firstError {failure : Option Chain} {result : Except Chain Object}
    (failed : failure.isSome = true) : (firstError failure result).isSome = true := by
  cases result with
  | error err => rfl
  | ok data => exact failed

theorem Recorded.of_loop (recorded : Recorded ce host step execCtx fan)
    (workers : fan'.workers = fan.workers) (byKey : fan'.byKey = fan.byKey)
    (failure : fan'.failure = fan.failure)
    (loop : ∀ result, fan'.loop ≠ .returned (.ok result)) :
    Recorded ce host step execCtx fan' where
  distinct := byKey ▸ recorded.distinct
  byKey := byKey ▸ workers ▸ recorded.byKey
  own := workers ▸ recorded.own
  past := workers ▸ recorded.past
  failed := workers ▸ failure ▸ recorded.failed
  returned result returned := absurd returned (loop result)

theorem Recorded.succeed (recorded : Recorded ce host step execCtx fan)
    (joined : ∀ worker ∈ fan.workers, worker.settled = true) (sound : fan.failure = none) :
    Recorded ce host step execCtx
      { fan with loop := .returned (.ok (fanOutResult fan.byKey fan.skipped)) } where
  distinct := recorded.distinct
  byKey := recorded.byKey
  own := recorded.own
  past := recorded.past
  failed := recorded.failed
  returned result returned := by
    obtain rfl : fanOutResult fan.byKey fan.skipped = result := by simpa using returned
    exact ⟨joined, sound, rfl⟩

theorem Recorded.spawn {worker : Worker} {next : Nat} (recorded : Recorded ce host step execCtx fan)
    (running : worker.thread = .running) (unsettled : worker.settled = false) :
    Recorded ce host step execCtx { fan with
      workers := fan.workers ++ [worker], next := next, loop := .dispatching } where
  distinct := recorded.distinct
  byKey key value := by
    rw [holds_snoc (by rw [running]; rfl)]
    exact recorded.byKey key value
  own := Cells.forall_snoc recorded.own (by simp [running])
  past := Cells.forall_snoc recorded.past (by simp [unsettled])
  failed := Cells.forall_snoc recorded.failed (by simp [unsettled])
  returned _ returned := by cases returned

theorem Recorded.advance {w : Nat} {worker : Worker} {move : Move} {thread : Thread}
    (recorded : Recorded ce host step execCtx fan) (nodup : (keysOf fan.workers).Nodup)
    (here : fan.workers[w]? = some worker)
    (moved : worker.thread.move (worker.work ce host step execCtx) move = some thread) :
    Recorded ce host step execCtx { fan with
      workers := fan.workers.set w { worker with thread := thread }
      byKey := fan.recorded worker.key thread } := by
  obtain ⟨running, next⟩ := move_inv moved
  -- A settled worker is over, so it is not this one.
  have unsettled : worker.settled = false := by
    cases settled : worker.settled with
    | false => rfl
    | true => exact absurd (recorded.past w worker here settled) (by simp [running])
  constructor
  · exact nodup_recorded recorded.distinct
  · exact lookup_recorded nodup here running recorded.byKey
  · refine Cells.forall_set here recorded.own ?_
    intro result (done : thread = .finished result)
    rcases next with idle | ⟨client, rfl⟩ | ⟨kind, rfl⟩
    · rw [done] at idle
      cases idle
    · exact ⟨client, by simpa [Worker.work] using done⟩
    · cases done
  · exact Cells.forall_set here recorded.past fun settled => by simp [unsettled] at settled
  · exact Cells.forall_set here recorded.failed fun settled => by simp [unsettled] at settled
  · intro result returned
    have settled := (recorded.returned result returned).1 worker (List.mem_of_getElem? here)
    simp [unsettled] at settled

theorem Recorded.settle {w : Nat} {worker : Worker} {result : Except Chain Object}
    (recorded : Recorded ce host step execCtx fan) (here : fan.workers[w]? = some worker)
    (past : worker.thread.result? = some result) (unsettled : worker.settled = false) :
    Recorded ce host step execCtx { fan with
      workers := fan.workers.set w { worker with settled := true }
      failure := firstError fan.failure result } := by
  constructor
  · exact recorded.distinct
  · intro key value
    exact (recorded.byKey key value).trans (Iff.symm (holds_set_same here rfl rfl))
  · exact Cells.forall_set here recorded.own (recorded.own w worker here)
  · exact Cells.forall_set here recorded.past fun _ => by simp [Thread.isOver, past]
  · refine Cells.forall_set here ?_ ?_
    · intro v other there settled err failed
      exact isSome_firstError (recorded.failed v other there settled err failed)
    · intro _ err failed
      obtain rfl : result = .error err := by simpa [past] using failed
      rfl
  · intro done returned
    have settled := (recorded.returned done returned).1 worker (List.mem_of_getElem? here)
    simp [unsettled] at settled

theorem Recorded.move (recorded : Recorded ce host step execCtx fan)
    (nodup : (keysOf fan.workers).Nodup) (moves : FanMoves ce host step execCtx ended fan a fan') :
    Recorded ce host step execCtx fan' := by
  cases moves with
  | exhausts _ _ | rejects _ _ | breaks _ _ | fails _ _ _ | takes _ _ _ _ =>
      exact recorded.of_loop rfl rfl rfl (by simp)
  | skips dispatching _ _ => exact recorded.of_loop rfl rfl rfl (by simp [dispatching])
  | spawns _ _ _ _ => exact recorded.spawn rfl rfl
  | advances here moved => exact recorded.advance nodup here moved
  | settles here past unsettled => exact recorded.settle here past unsettled
  | succeeds _ joined sound => exact recorded.succeed joined sound

end BrokerMcp.Proof.Composite
