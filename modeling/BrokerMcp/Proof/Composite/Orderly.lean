import Mathlib.Data.List.Flatten
import BrokerMcp.Proof.Composite.Loaded

namespace BrokerMcp.Proof.Composite
open Resilience BrokerMcp.Composite
open Transition

variable {ce : CompositeExecutor} {host : Host}
variable {applyResultStrategy : List (String × Object) → Except Chain Object}
variable {s t : Execution} {a : ExecAction}

/-! ## Batches -/

theorem addStep_flatten (batches : List ExecutionBatch) (step : Step) :
    (addStep batches step).flatMap ExecutionBatch.steps =
      batches.flatMap ExecutionBatch.steps ++ [step] := by
  unfold addStep
  split_ifs
  · split
    · next steps last =>
        have whole := List.dropLast_append_getLast? (⟨false, steps⟩ : ExecutionBatch) last
        nth_rewrite 2 [← whole]
        simp only [List.flatMap_append, List.flatMap_cons, List.flatMap_nil, List.append_nil,
          List.append_assoc]
    · simp
  · simp

theorem groupStepsIntoBatches_flatten (steps : List Step) :
    (groupStepsIntoBatches steps).flatMap ExecutionBatch.steps = steps := by
  have flatten : ∀ batches : List ExecutionBatch,
      (steps.foldl addStep batches).flatMap ExecutionBatch.steps =
        batches.flatMap ExecutionBatch.steps ++ steps := by
    induction steps with
    | nil =>
        intro batches
        rw [List.foldl_nil, List.append_nil]
    | cons step rest ih =>
        intro batches
        rw [List.foldl_cons, ih, addStep_flatten, List.append_assoc]
        rfl
  exact flatten []

/-! ## What a part contributes -/

def outcome (part : Part) : List (String × Object) :=
  match part.work.result? with
  | some result => result.toOption.toList.map (part.step.id, ·)
  | none => []

def contributed (part : Part) : List (String × Object) := if part.settled then outcome part else []

def Succeeded (part : Part) : Prop := ∃ data, part.work.result? = some (.ok data)

theorem outcome_of_result {part : Part} {result : Except Chain Object}
    (past : part.work.result? = some result) :
    outcome part = result.toOption.toList.map (part.step.id, ·) := by
  unfold outcome
  rw [past]

theorem single_result {thread next : Thread} {work : Client → Except Chain Object}
    {move : Move} (moved : thread.move work move = some next) :
    (Work.single thread).result? = none := by
  have running := (move_inv moved).1
  simpa [Thread.isOver, Work.result?] using running

theorem fan_result {step : Step} {execCtx : ExecuteContext} {ended : Bool} {fan fan' : FanOut}
    {a : FanAction} {result : Except Chain Object}
    (moves : FanMoves ce host step execCtx ended fan a fan')
    (past : (Work.fanOut fan).result? = some result) :
    (Work.fanOut fan').result? = some result := by
  have returned := loop_of_result past
  cases moves with
  | exhausts loop _ | rejects loop _ | skips loop _ _ | takes loop _ _ _ | breaks loop _
  | spawns loop _ _ _ | fails loop _ _ | succeeds loop _ _ =>
      rw [returned] at loop
      cases loop
  | advances _ _ | settles _ _ _ => exact past

structure Steady (part part' : Part) : Prop where
  step : part'.step = part.step
  result : ∀ result, part.work.result? = some result → part'.work.result? = some result

theorem Steady.succeeded {part part' : Part} (steady : Steady part part')
    (succeeded : Succeeded part) : Succeeded part' := by
  obtain ⟨data, past⟩ := succeeded
  exact ⟨data, steady.result _ past⟩

theorem Steady.outcome {part part' : Part} (steady : Steady part part')
    {result : Except Chain Object} (past : part.work.result? = some result) :
    outcome part' = Composite.outcome part := by
  rw [outcome_of_result past, outcome_of_result (steady.result _ past), steady.step]

/-! ## What is stored -/

structure Stored (s : Execution) (n : Nat) : Prop where
  inside : n ≤ s.parts.length
  succeeded : ∀ (j : Nat) (part : Part), s.parts[j]? = some part → j < n → Succeeded part
  results : s.stepResults.Perm ((s.parts.take n).flatMap outcome)

structure Batched (s : Execution) (results : List (String × Object)) (failure : Option Chain) :
    Prop where
  gathered : results.Perm ((s.parts.drop s.base).flatMap contributed)
  finished : ∀ (j : Nat) (part : Part), s.parts[j]? = some part → s.base ≤ j →
    part.settled = true → ∃ result, part.work.result? = some result ∧
      (failure = none → ∃ data, result = .ok data)

def Progress (s : Execution) (n : Nat) : ExecPhase → Prop
  | .looping => n = s.parts.length
  | .inStep => n = s.base ∧ s.parts.length = s.base + 1
  | .inBatch results failure => n = s.base ∧ Batched s results failure
  | .returned (.ok _) => n = s.parts.length ∧ s.batches = []
  | _ => True

structure Orderly (tool : CompositeTool) (s : Execution) : Prop where
  order : s.parts.map Part.step ++ s.batches.flatMap ExecutionBatch.steps = tool.steps
  shaped : ∀ batch ∈ s.batches, Shaped batch
  bound : s.base ≤ s.parts.length
  stored : ∃ n, Stored s n ∧ Progress s n s.phase

variable {tool : CompositeTool}

theorem orderly_start {params : Object} {ended : Bool} :
    Orderly tool (execute tool params ended) := by
  refine ⟨groupStepsIntoBatches_flatten tool.steps, groupStepsIntoBatches_shaped tool.steps,
    Nat.le_refl 0, 0, ⟨Nat.le_refl 0, ?_, .nil⟩, rfl⟩
  intro j part _ inside
  cases inside

theorem flatMap_outcome_set {parts : List Part} {j : Nat} {part part' : Part}
    (here : parts[j]? = some part) (same : outcome part' = outcome part) :
    (parts.set j part').flatMap outcome = parts.flatMap outcome := by
  rw [List.flatMap_def, List.flatMap_def, Cells.map_set_same here same]

theorem Stored.set {n j : Nat} (stored : Stored s n) {part part' : Part} {phase : ExecPhase}
    (here : s.parts[j]? = some part) (steady : Steady part part') :
    Stored { s with parts := s.parts.set j part', phase := phase } n := by
  constructor
  · rw [List.length_set]
    exact stored.inside
  · exact Cells.forall_set here stored.succeeded fun inside =>
      steady.succeeded (stored.succeeded j part here inside)
  · show s.stepResults.Perm (((s.parts.set j part').take n).flatMap outcome)
    rw [List.take_set]
    by_cases inside : j < n
    · obtain ⟨data, past⟩ := stored.succeeded j part here inside
      have here' : (s.parts.take n)[j]? = some part := by rw [List.getElem?_take_of_lt inside, here]
      rw [flatMap_outcome_set here' (steady.outcome past)]
      exact stored.results
    · rw [List.set_eq_of_length_le]
      · exact stored.results
      · rw [List.length_take]
        omega

theorem Batched.set {results : List (String × Object)} {failure : Option Chain} {j : Nat}
    {part : Part} {work : Work} (batched : Batched s results failure)
    (here : s.parts[j]? = some part) (steady : Steady part { part with work := work }) :
    Batched (s.setWork j part work) results failure := by
  constructor
  · show results.Perm (((s.parts.set j { part with work := work }).drop s.base).flatMap contributed)
    rw [List.drop_set]
    split_ifs with before
    · exact batched.gathered
    · have here' : (s.parts.drop s.base)[j - s.base]? = some part := by
        rw [List.getElem?_drop, Nat.add_sub_cancel' (Nat.le_of_not_lt before), here]
      have same : contributed { part with work := work } = contributed part := by
        cases settled : part.settled with
        | false => simp [contributed, settled]
        | true =>
            obtain ⟨result, past, -⟩ :=
              batched.finished j part here (Nat.le_of_not_lt before) settled
            simp only [contributed, settled, ↓reduceIte]
            exact steady.outcome past
      rw [List.flatMap_def, Cells.map_set_same here' same]
      exact batched.gathered
  · refine Cells.forall_set here batched.finished fun current settled => ?_
    obtain ⟨result, past, sound⟩ := batched.finished j part here current settled
    exact ⟨result, steady.result result past, sound⟩

theorem Orderly.setWork (orderly : Orderly tool s) {j : Nat} {part : Part} {work : Work}
    (here : s.parts[j]? = some part) (steady : Steady part { part with work := work }) :
    Orderly tool (s.setWork j part work) := by
  obtain ⟨n, stored, progress⟩ := orderly.stored
  have length : (s.setWork j part work).parts.length = s.parts.length := List.length_set
  refine ⟨?_, orderly.shaped, length ▸ orderly.bound, n, stored.set here steady, ?_⟩
  · have same : (s.setWork j part work).parts.map Part.step = s.parts.map Part.step :=
      Cells.map_set_same here rfl
    rw [same]
    exact orderly.order
  · show Progress (s.setWork j part work) n s.phase
    cases phase : s.phase with
    | looping =>
        rw [phase] at progress
        exact progress.trans length.symm
    | inStep =>
        rw [phase] at progress
        exact ⟨progress.1, length.trans progress.2⟩
    | inBatch results failure =>
        rw [phase] at progress
        exact ⟨progress.1, progress.2.set here steady⟩
    | returned result =>
        cases result with
        | ok out =>
            rw [phase] at progress
            exact ⟨progress.1.trans length.symm, progress.2⟩
        | error err => trivial
    | panicked => trivial

theorem Stored.begin (stored : Stored s s.parts.length) (batch : ExecutionBatch)
    (rest : List ExecutionBatch) : Stored (s.begin ce batch rest) s.parts.length := by
  constructor
  · rw [Execution.begin, List.length_append]
    exact Nat.le_add_right _ _
  · intro j part here inside
    rw [Execution.begin, List.getElem?_append_left inside] at here
    exact stored.succeeded j part here inside
  · show s.stepResults.Perm (((s.parts ++ _).take s.parts.length).flatMap outcome)
    rw [List.take_left]
    have results := stored.results
    rw [List.take_length] at results
    exact results

theorem Orderly.begin (orderly : Orderly tool s) {batch : ExecutionBatch}
    {rest : List ExecutionBatch} (looping : s.phase = .looping) (todo : s.batches = batch :: rest) :
    Orderly tool (s.begin ce batch rest) := by
  obtain ⟨n, stored, progress⟩ := orderly.stored
  rw [looping] at progress
  obtain rfl : n = s.parts.length := progress
  refine ⟨?_, ?_, (stored.begin batch rest).inside, _, stored.begin batch rest, ?_⟩
  · have order := orderly.order
    rw [todo, List.flatMap_cons, ← List.append_assoc] at order
    simpa [Execution.begin, Function.comp_def] using order
  · intro later member
    exact orderly.shaped later (todo ▸ List.mem_cons_of_mem batch member)
  · have shaped := orderly.shaped batch (todo ▸ List.mem_cons_self)
    cases sequential : batch.sequential with
    | true =>
        obtain ⟨step, only, -⟩ := shaped.sequential sequential
        simp [Execution.begin, sequential, Progress, only]
    | false =>
        simp only [Execution.begin, sequential, Bool.false_eq_true, ↓reduceIte]
        refine ⟨rfl, ?_, ?_⟩
        · simp [contributed, List.flatMap_map]
        · intro j part here current settled
          rw [List.getElem?_append_right current] at here
          obtain ⟨step, -, rfl⟩ := List.mem_map.mp (List.mem_of_getElem? here)
          cases settled

theorem finished_firstError {failure : Option Chain} {result : Except Chain Object}
    (sound : firstError failure result = none) : failure = none ∧ ∃ data, result = .ok data := by
  cases result with
  | ok data => exact ⟨sound, data, rfl⟩
  | error err => cases sound

theorem Batched.settle {results : List (String × Object)} {failure : Option Chain} {j : Nat}
    {part : Part} {result : Except Chain Object} {phase : ExecPhase}
    (batched : Batched s results failure) (here : s.parts[j]? = some part)
    (past : part.work.result? = some result) (current : s.base ≤ j)
    (unsettled : part.settled = false) :
    Batched { s with parts := s.parts.set j { part with settled := true }, phase := phase }
      (results ++ result.toOption.toList.map (part.step.id, ·)) (firstError failure result) := by
  constructor
  · show List.Perm _ (((s.parts.set j { part with settled := true }).drop s.base).flatMap contributed)
    rw [List.drop_set, if_neg (Nat.not_lt.mpr current)]
    have here' : (s.parts.drop s.base)[j - s.base]? = some part := by
      rw [List.getElem?_drop, Nat.add_sub_cancel' current, here]
    have nothing : contributed part = [] := by simp [contributed, unsettled]
    have new : contributed { part with settled := true } =
        result.toOption.toList.map (part.step.id, ·) := outcome_of_result past
    refine (batched.gathered.append_right _).trans ?_
    rw [← new]
    exact (Cells.flatMap_set_perm here' nothing).symm
  · refine Cells.forall_set here ?_ ?_
    · intro k other found current settled
      obtain ⟨result', past', sound⟩ := batched.finished k other found current settled
      exact ⟨result', past', fun first => sound (finished_firstError first).1⟩
    · intro _ _
      exact ⟨result, past, fun first => (finished_firstError first).2⟩

theorem Orderly.settle (orderly : Orderly tool s) {j : Nat} {part : Part}
    {result : Except Chain Object} {results : List (String × Object)} {failure : Option Chain}
    (here : s.parts[j]? = some part) (past : part.work.result? = some result)
    (batch : s.phase = .inBatch results failure) (current : s.base ≤ j)
    (unsettled : part.settled = false) :
    Orderly tool { s with
      parts := s.parts.set j { part with settled := true }
      phase := .inBatch (results ++ result.toOption.toList.map (part.step.id, ·))
        (firstError failure result) } := by
  obtain ⟨n, stored, progress⟩ := orderly.stored
  rw [batch] at progress
  obtain ⟨rfl, batched⟩ := progress
  refine ⟨?_, orderly.shaped, ?_, _, stored.set here ⟨rfl, fun _ => id⟩, rfl,
    batched.settle here past current unsettled⟩
  · have same : (s.parts.set j { part with settled := true }).map Part.step =
        s.parts.map Part.step := Cells.map_set_same here rfl
    show (s.parts.set j { part with settled := true }).map Part.step ++ _ = _
    rw [same]
    exact orderly.order
  · rw [List.length_set]
    exact orderly.bound

/-! ## Storing -/

theorem outcome_keys (parts : List Part) :
    ((parts.flatMap outcome).map Prod.fst).Sublist (parts.map fun part => part.step.id) := by
  induction parts with
  | nil => exact .slnil
  | cons part parts ih =>
      rw [List.flatMap_cons, List.map_append, List.map_cons]
      have own : ((outcome part).map Prod.fst).Sublist [part.step.id] := by
        unfold outcome
        split
        · next result _ => cases result <;> simp [Except.toOption]
        · simp
      exact own.append ih

theorem Orderly.distinct (orderly : Orderly tool s) (loaded : Loaded tool.steps) :
    ((s.parts.flatMap outcome).map Prod.fst).Nodup := by
  have distinct := loaded.distinct
  rw [← orderly.order, List.map_append, List.map_map] at distinct
  exact (List.Nodup.of_append_left distinct).sublist (outcome_keys s.parts)

theorem Orderly.nodup (orderly : Orderly tool s) (loaded : Loaded tool.steps) :
    (s.stepResults.map Prod.fst).Nodup := by
  obtain ⟨n, stored, -⟩ := orderly.stored
  rw [(stored.results.map Prod.fst).nodup_iff]
  exact (orderly.distinct loaded).sublist (((List.take_sublist n _).flatMap outcome).map _)

theorem store_fresh {stepResults results : List (String × Object)}
    (distinct : ((stepResults ++ results).map Prod.fst).Nodup) :
    store stepResults results = stepResults ++ results := by
  induction results generalizing stepResults with
  | nil => rw [store, List.foldl_nil, List.append_nil]
  | cons entry results ih =>
      have fresh : entry.1 ∉ stepResults.map Prod.fst := by
        intro member
        rw [List.map_append, List.map_cons] at distinct
        exact (List.nodup_append.mp distinct).2.2 _ member _ List.mem_cons_self rfl
      have apart : stepResults ++ entry :: results = (stepResults ++ [entry]) ++ results := by
        rw [List.append_assoc]
        rfl
      rw [apart] at distinct ⊢
      rw [← ih distinct, store, List.foldl_cons, Assoc.put_of_not_mem entry.2 fresh]
      rfl

def writes : Execution × ExecAction → List (String × Object)
  | (s, .join) =>
      match s.phase with
      | .inStep => (s.parts[s.base]?.map outcome).getD []
      | .inBatch results failure => if failure.isSome then [] else results
      | _ => []
  | _ => []

theorem Stored.extend (stored : Stored s s.base) {results : List (String × Object)}
    (new : results.Perm ((s.parts.drop s.base).flatMap outcome))
    (succeeded : ∀ part ∈ s.parts.drop s.base, Succeeded part) :
    Stored (s.joined (s.stepResults ++ results) .looping) s.parts.length := by
  refine ⟨Nat.le_refl _, ?_, ?_⟩
  · intro j part here _
    rcases Nat.lt_or_ge j s.base with before | after
    · exact stored.succeeded j part here before
    · apply succeeded part
      apply List.mem_of_getElem? (i := j - s.base)
      rw [List.getElem?_drop, Nat.add_sub_cancel' after]
      exact here
  · show (s.stepResults ++ results).Perm ((s.parts.take s.parts.length).flatMap outcome)
    rw [List.take_length, ← List.take_append_drop s.base s.parts, List.flatMap_append]
    exact stored.results.append new

theorem Stored.fail {n : Nat} (stored : Stored s n) (phase : ExecPhase) :
    Stored (s.joined s.stepResults phase) n :=
  ⟨stored.inside, stored.succeeded, stored.results⟩

structure Advances (tool : CompositeTool) (s : Execution) (a : ExecAction) (t : Execution) : Prop where
  orderly : Orderly tool t
  adds : t.stepResults = s.stepResults ++ writes (s, a)

theorem Orderly.join (orderly : Orderly tool s) (loaded : Loaded tool.steps)
    (stored : Stored s s.base) {results : List (String × Object)}
    (written : writes (s, .join) = results)
    (new : results.Perm ((s.parts.drop s.base).flatMap outcome))
    (succeeded : ∀ part ∈ s.parts.drop s.base, Succeeded part) :
    Advances tool s .join (s.joined (store s.stepResults results) .looping) := by
  have longer := stored.extend new succeeded
  have fresh : store s.stepResults results = s.stepResults ++ results := by
    apply store_fresh
    have keys : (s.stepResults ++ results).Perm ((s.parts.take s.parts.length).flatMap outcome) :=
      longer.results
    rw [List.take_length] at keys
    exact ((keys.map Prod.fst).nodup_iff).mpr (orderly.distinct loaded)
  rw [fresh]
  refine ⟨⟨orderly.order, orderly.shaped, Nat.le_refl _, _, longer, rfl⟩, ?_⟩
  rw [written]
  rfl

theorem Orderly.leave (orderly : Orderly tool s) {n : Nat} (stored : Stored s n)
    (written : writes (s, .join) = []) {phase : ExecPhase}
    (left : phase = .panicked ∨ ∃ err, phase = .returned (.error err)) :
    Advances tool s .join (s.joined s.stepResults phase) := by
  refine ⟨⟨orderly.order, orderly.shaped, Nat.le_refl _, n, stored.fail _, ?_⟩, ?_⟩
  · rcases left with rfl | ⟨err, rfl⟩
    · trivial
    · trivial
  · rw [written, List.append_nil]
    rfl

theorem Orderly.joinStep (orderly : Orderly tool s) (loaded : Loaded tool.steps) {part : Part}
    {result : Except Chain Object} (step : s.phase = .inStep)
    (here : s.parts[s.base]? = some part) (past : part.work.result? = some result) :
    Advances tool s .join
      (s.joined (store s.stepResults (result.toOption.toList.map (part.step.id, ·)))
        (afterStep part result)) := by
  obtain ⟨n, stored, progress⟩ := orderly.stored
  rw [step] at progress
  obtain ⟨rfl, alone⟩ := progress
  have written : writes (s, .join) = result.toOption.toList.map (part.step.id, ·) := by
    rw [← outcome_of_result past]
    simp only [writes, step, here, Option.map_some, Option.getD_some]
  cases result with
  | error err =>
      refine orderly.leave stored written ?_
      unfold afterStep
      split_ifs
      · exact .inl rfl
      · exact .inr ⟨err, rfl⟩
  | ok data =>
      have last : s.parts.drop s.base = [part] := by
        obtain ⟨inside, rfl⟩ := List.getElem?_eq_some_iff.mp here
        rw [List.drop_eq_getElem_cons inside, ← alone, List.drop_length]
      refine orderly.join loaded stored written ?_ ?_
      · rw [last, List.flatMap_singleton, outcome_of_result past]
      · intro other member
        rw [last, List.mem_singleton] at member
        exact ⟨data, member ▸ past⟩

theorem Orderly.joinBatch (orderly : Orderly tool s) (loaded : Loaded tool.steps)
    {results : List (String × Object)} {failure : Option Chain}
    (batch : s.phase = .inBatch results failure)
    (settled : ∀ part ∈ s.parts.drop s.base, part.settled = true) :
    Advances tool s .join
      (s.joined (if failure.isSome then s.stepResults else store s.stepResults results)
        (afterBatch failure)) := by
  obtain ⟨n, stored, progress⟩ := orderly.stored
  rw [batch] at progress
  obtain ⟨rfl, batched⟩ := progress
  have written : writes (s, .join) = if failure.isSome then [] else results := by
    simp only [writes, batch]
  cases failure with
  | some err => exact orderly.leave stored written (.inr ⟨err, rfl⟩)
  | none =>
      refine orderly.join loaded stored written ?_ ?_
      · have all : (s.parts.drop s.base).flatMap outcome =
            (s.parts.drop s.base).flatMap contributed := by
          apply List.flatMap_congr
          intro part member
          rw [contributed, if_pos (settled part member)]
        rw [all]
        exact batched.gathered
      · intro part member
        obtain ⟨i, here⟩ := List.mem_iff_getElem?.mp member
        rw [List.getElem?_drop] at here
        obtain ⟨result, past, sound⟩ :=
          batched.finished _ part here (Nat.le_add_right _ _) (settled part member)
        obtain ⟨data, rfl⟩ := sound rfl
        exact ⟨data, past⟩

theorem Orderly.cancel (orderly : Orderly tool s) : Orderly tool { s with ended := true } := by
  obtain ⟨n, stored, progress⟩ := orderly.stored
  refine ⟨orderly.order, orderly.shaped, orderly.bound, n,
    ⟨stored.inside, stored.succeeded, stored.results⟩, ?_⟩
  show Progress { s with ended := true } n s.phase
  cases phase : s.phase with
  | inBatch results failure =>
      rw [phase] at progress
      exact ⟨progress.1, progress.2.gathered, progress.2.finished⟩
  | returned result =>
      rw [phase] at progress
      cases result with
      | ok out => exact progress
      | error err => trivial
  | looping | inStep | panicked =>
      rw [phase] at progress
      exact progress

theorem Orderly.move (orderly : Orderly tool s) (loaded : Loaded tool.steps)
    (moves : ExecMoves ce host s a t) : Advances tool s a t := by
  cases moves with
  | cancels => exact ⟨orderly.cancel, (List.append_nil _).symm⟩
  | begins looping todo => exact ⟨orderly.begin looping todo, (List.append_nil _).symm⟩
  | concludes looping done =>
      obtain ⟨n, stored, progress⟩ := orderly.stored
      rw [looping] at progress
      refine ⟨⟨orderly.order, orderly.shaped, orderly.bound, n,
        ⟨stored.inside, stored.succeeded, stored.results⟩, ?_⟩, (List.append_nil _).symm⟩
      rename_i result
      cases result with
      | ok out => exact ⟨progress, done⟩
      | error err => trivial
  | single here work moved =>
      have unfinished := single_result moved
      refine ⟨orderly.setWork here ⟨rfl, fun result past => ?_⟩, (List.append_nil _).symm⟩
      rw [work, unfinished] at past
      cases past
  | fan here work moves =>
      refine ⟨orderly.setWork here ⟨rfl, fun result past => ?_⟩, (List.append_nil _).symm⟩
      rw [work] at past
      exact fan_result moves past
  | settles here past batch current unsettled =>
      exact ⟨orderly.settle here past batch current unsettled, (List.append_nil _).symm⟩
  | joinsStep step here past => exact orderly.joinStep loaded step here past
  | joinsBatch batch settled => exact orderly.joinBatch loaded batch settled

/-! ## Runs of a loaded tool -/

structure Grouped (tool : CompositeTool) : Prop where
  flatten : (groupStepsIntoBatches tool.steps).flatMap ExecutionBatch.steps = tool.steps
  shaped : ∀ batch ∈ groupStepsIntoBatches tool.steps, Shaped batch
  fansAlone : ∀ batch ∈ groupStepsIntoBatches tool.steps, batch.sequential = false →
    ∀ step ∈ batch.steps, step.forEach = ""

structure Ready (tool : CompositeTool) (s : Execution) (batch : ExecutionBatch) : Prop where
  order : ∃ later, s.parts.map Part.step ++ batch.steps ++ later = tool.steps
  earlier : ∀ part ∈ s.parts, ∃ data, part.work.result? = some (.ok data) ∧
    (part.step.id, data) ∈ s.stepResults
  parents : ∀ step ∈ batch.steps, step.forEach ≠ "" →
    ∃ parent, s.stepResults.lookup step.forEach = some parent

theorem Loaded.sequential (loaded : Loaded tool.steps) {batch : ExecutionBatch}
    (shaped : Shaped batch) {step : Step} (declared : step ∈ tool.steps)
    (inside : step ∈ batch.steps) (fans : step.forEach ≠ "") : batch.sequential = true := by
  by_contra parallel
  obtain ⟨before, after, split⟩ := List.append_of_mem declared
  have alone := (loaded.parents before step after split fans).1
  rw [shaped.parallel (by simpa using parallel) step inside] at alone
  cases alone

theorem Loaded.grouped (loaded : Loaded tool.steps) : Grouped tool := by
  have flatten := groupStepsIntoBatches_flatten tool.steps
  have shaped := groupStepsIntoBatches_shaped tool.steps
  refine ⟨flatten, shaped, ?_⟩
  intro batch member parallel step inside
  by_contra fans
  have declared : step ∈ tool.steps := flatten ▸ List.mem_flatMap.mpr ⟨batch, member, inside⟩
  rw [loaded.sequential (shaped batch member) declared inside fans] at parallel
  cases parallel

theorem Stored.entry {n : Nat} (stored : Stored s n) {entry : String × Object}
    (member : entry ∈ s.stepResults) :
    ∃ part ∈ s.parts, part.step.id = entry.1 ∧ part.work.result? = some (.ok entry.2) := by
  obtain ⟨part, inside, own⟩ := List.mem_flatMap.mp (stored.results.mem_iff.mp member)
  refine ⟨part, List.mem_of_mem_take inside, ?_⟩
  obtain ⟨j, here⟩ := List.mem_iff_getElem?.mp inside
  have early : j < n := by
    have bound := Cells.lt_of_some here
    rw [List.length_take] at bound
    omega
  rw [List.getElem?_take_of_lt early] at here
  obtain ⟨data, past⟩ := stored.succeeded j part here early
  rw [outcome_of_result past] at own
  obtain rfl := List.mem_singleton.mp own
  exact ⟨rfl, past⟩

theorem Stored.all (stored : Stored s s.parts.length) {part : Part} (member : part ∈ s.parts) :
    ∃ data, part.work.result? = some (.ok data) ∧ (part.step.id, data) ∈ s.stepResults := by
  obtain ⟨j, here⟩ := List.mem_iff_getElem?.mp member
  obtain ⟨data, past⟩ := stored.succeeded j part here (Cells.lt_of_some here)
  refine ⟨data, past, stored.results.mem_iff.mpr (List.mem_flatMap.mpr ⟨part, ?_, ?_⟩)⟩
  · rw [List.take_length]
    exact member
  · rw [outcome_of_result past]
    exact List.mem_singleton_self _

theorem Orderly.ready (orderly : Orderly tool s) (loaded : Loaded tool.steps)
    {batch : ExecutionBatch} {rest : List ExecutionBatch} (looping : s.phase = .looping)
    (todo : s.batches = batch :: rest) : Ready tool s batch := by
  obtain ⟨n, stored, progress⟩ := orderly.stored
  rw [looping] at progress
  obtain rfl : n = s.parts.length := progress
  have order := orderly.order
  rw [todo, List.flatMap_cons, ← List.append_assoc] at order
  refine ⟨⟨_, order⟩, fun part member => stored.all member, ?_⟩
  intro step inside fans
  have declared : step ∈ tool.steps := by
    rw [← order]
    exact List.mem_append_left _ (List.mem_append_right _ inside)
  have shaped := orderly.shaped batch (todo ▸ List.mem_cons_self)
  -- A step that fans out is alone in its batch, so the steps before it are those of the parts.
  have sequential := loaded.sequential shaped declared inside fans
  obtain ⟨only, alone, -⟩ := shaped.sequential sequential
  rw [alone] at inside order
  obtain rfl := List.mem_singleton.mp inside
  have split : tool.steps = s.parts.map Part.step ++ step :: rest.flatMap ExecutionBatch.steps := by
    rw [← order, List.append_assoc]
    rfl
  have parent := (loaded.parents _ step _ split fans).2
  rw [List.map_map] at parent
  obtain ⟨part, member, named⟩ := List.mem_map.mp parent
  obtain ⟨data, -, entry⟩ := stored.all member
  apply Assoc.mem_keys_iff.mp
  exact List.mem_map.mpr ⟨_, entry, named⟩

theorem put_summary {stepResults : StepResults} (fresh : "summary" ∉ stepResults.map Prod.fst)
    (fields : Object) :
    Assoc.put "summary" (.summary fields) (collectSteps stepResults) =
      collectSteps stepResults ++ [("summary", .summary fields)] := by
  apply Assoc.put_of_not_mem
  simpa [collectSteps, Function.comp_def] using fresh

/-- What the loader has accepted, every run of the executor can rely on: the batches are the steps in
order; a batch starts when all earlier steps have succeeded and their results are there, those of the
parents of its fan-outs among them; each result is written once, under the ID of its step, and stays;
and there is room beside the results for the summary. -/
theorem loader_executor_agree (parse : String → String → Option String) (description : String)
    (tool : CompositeTool) (accepted : validateTool parse description tool = .ok ())
    (ce : CompositeExecutor) (host : Host)
    (applyResultStrategy : List (String × Object) → Except Chain Object) (params : Object)
    (ended : Bool) {history : List (Execution × ExecAction)} {s : Execution}
    (run : Run (Execution.step ce host applyResultStrategy) (execute tool params ended) history s) :
    Grouped tool ∧ (tool.steps.filter Step.resumable).length ≤ 1 ∧
    (∀ st batch rest, (st, ExecAction.next) ∈ history → st.batches = batch :: rest →
      Ready tool st batch) ∧
    s.stepResults = history.flatMap writes ∧ (s.stepResults.map Prod.fst).Nodup ∧
    (∀ entry ∈ s.stepResults, ∃ part ∈ s.parts,
      part.step.id = entry.1 ∧ part.work.result? = some (.ok entry.2)) ∧
    (∀ out, s.phase = .returned (.ok out) →
      ∀ step ∈ tool.steps, ∃ data, (step.id, data) ∈ s.stepResults) ∧
    (tool.result.strategy = "postProcess" → ∀ fields,
      Assoc.put "summary" (.summary fields) (collectSteps s.stepResults) =
        collectSteps s.stepResults ++ [("summary", .summary fields)]) := by
  have loaded := validateTool_loaded accepted
  have preserved : ∀ s a t, Orderly tool s →
      Execution.step ce host applyResultStrategy s a = some t → Orderly tool t :=
    fun _ _ _ orderly taken => (orderly.move loaded (step_execMoves taken)).orderly
  obtain ⟨orderly, visited⟩ := run.invariant orderly_start preserved
  have log : s.stepResults = (execute tool params ended).stepResults ++ history.flatMap writes := by
    apply run.collects orderly_start preserved
    intro _ _ _ orderly taken
    exact (orderly.move loaded (step_execMoves taken)).adds
  obtain ⟨n, stored, progress⟩ := orderly.stored
  refine ⟨loaded.grouped, loaded.cursor, ?_, log, orderly.nodup loaded, fun entry => stored.entry,
    ?_, ?_⟩
  · intro st batch rest member todo
    obtain ⟨next, taken⟩ := run.taken member
    have looping : st.phase = .looping := by
      cases step_execMoves taken with
      | begins looping _ => exact looping
      | concludes looping _ => exact looping
    exact (visited _ member).ready loaded looping todo
  · intro out returned step member
    rw [returned] at progress
    obtain ⟨rfl, empty⟩ := progress
    have order := orderly.order
    rw [empty, List.flatMap_nil, List.append_nil] at order
    rw [← order] at member
    obtain ⟨part, inside, rfl⟩ := List.mem_map.mp member
    obtain ⟨data, -, entry⟩ := stored.all inside
    exact ⟨data, entry⟩
  · intro processes
    apply put_summary
    intro reserved
    obtain ⟨entry, member, named⟩ := List.mem_map.mp reserved
    obtain ⟨part, inside, own, -⟩ := stored.entry member
    apply validateTool_summary accepted processes
    rw [← orderly.order, List.map_append]
    apply List.mem_append_left
    rw [List.map_map]
    exact List.mem_map.mpr ⟨part, inside, own.trans named⟩

def listing : List ExecAction :=
  [.next, .single 0 .call, .single 0 .answer,
    .single 0 (.finish fun _ _ _ => .ok [("data", .arr [vpnRow "default" 2])]), .join,
    .next, .fan 1 .check, .fan 1 .select, .fan 1 (.worker 0 .call), .fan 1 (.worker 0 .answer),
    .fan 1 (.worker 0 (.finish fun _ _ _ => .ok noClients)), .fan 1 (.settle 0), .fan 1 .check,
    .fan 1 .wait, .join, .next]

theorem loader_executor_agree_listVpns :
    validateTool (fun _ _ => none) "Lists all Message VPNs." listVpns = .ok () ∧
    ∃ history s out,
      Run (Execution.step vpnExecutor vpnHost keepResults) (execute listVpns [] false) history s ∧
      s.phase = .returned (.ok out) ∧ (s.stepResults.map Prod.fst).Nodup ∧
      ∀ step ∈ listVpns.steps, ∃ data, (step.id, data) ∈ s.stepResults := by
  have accepted : validateTool (fun _ _ => none) "Lists all Message VPNs." listVpns = .ok () := rfl
  obtain ⟨s, out, done, returned⟩ : ∃ s out,
      exec (Execution.step vpnExecutor vpnHost keepResults) (execute listVpns [] false) listing =
        some s ∧ s.phase = .returned (.ok out) := ⟨_, _, rfl, rfl⟩
  have run := run_of_exec done
  obtain ⟨-, -, -, -, distinct, -, whole, -⟩ := loader_executor_agree (fun _ _ => none)
    "Lists all Message VPNs." listVpns accepted vpnExecutor vpnHost keepResults [] false run
  exact ⟨accepted, _, s, out, run, returned, distinct, whole out returned⟩

end BrokerMcp.Proof.Composite
