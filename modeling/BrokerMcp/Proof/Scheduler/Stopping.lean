import BrokerMcp.Proof.Scheduler.Rotation

namespace BrokerMcp.Proof.Scheduler
open Resilience Transition

inductive Move (w : Waiter) : Waiter → Prop where
  | stay : Move w w
  | grant (waiting : pending w = true) : Move w w.grant
  | stop (waiting : pending w = true) : Move w w.stop
  | resolve (unsettled : w.resolved = false) : Move w w.resolve

structure Moved (ws ws' : List Waiter) : Prop where
  length : ws'.length = ws.length
  old : ∀ {i : Nat} {w : Waiter}, ws[i]? = some w → ∃ w', ws'[i]? = some w' ∧ Move w w'

theorem Moved.refl (ws : List Waiter) : Moved ws ws :=
  ⟨rfl, fun found => ⟨_, found, .stay⟩⟩

theorem Moved.back {ws ws' : List Waiter} (moved : Moved ws ws') {i : Nat} {w' : Waiter}
    (found : ws'[i]? = some w') : ∃ w, ws[i]? = some w ∧ Move w w' := by
  have inside := (List.getElem?_eq_some_iff.mp found).1
  rw [moved.length] at inside
  obtain ⟨v, here, move⟩ := moved.old (List.getElem?_eq_getElem inside)
  obtain rfl := Option.some.inj (found.symm.trans here)
  exact ⟨_, List.getElem?_eq_getElem inside, move⟩

theorem moved_modify {ws : List Waiter} {i : Nat} {w : Waiter} {f : Waiter → Waiter}
    (found : ws[i]? = some w) (move : Move w (f w)) : Moved ws (ws.modify i f) where
  length := List.length_modify ..
  old {j v} here := by
    rw [List.getElem?_modify]
    by_cases same : i = j
    · subst same
      obtain rfl := Option.some.inj (found.symm.trans here)
      exact ⟨f w, by simp [found], move⟩
    · exact ⟨v, by simp [same, here], .stay⟩

theorem moved_map_stopIf (p : CallerKey → Prop) [DecidablePred p] (ws : List Waiter) :
    Moved ws (ws.map (stopIf p)) where
  length := List.length_map _
  old {i w} found := by
    refine ⟨stopIf p w, by simp [found], ?_⟩
    unfold stopIf
    split_ifs with stopped
    · exact .stop stopped.1
    · exact .stay

section Waiters

variable {s : Scheduler} {w : Nat} {waiter : Waiter}

theorem releaseLocked_waiters (s : Scheduler) (key : CallerKey) :
    (s.releaseLocked key).waiters = s.waiters := by
  unfold Scheduler.releaseLocked
  split
  · rfl
  · split
    · rfl
    · split_ifs
      · rfl
      · exact prune_waiters _ key

theorem removeFromQueueLocked_waiters (s : Scheduler) (w : Nat) (key : CallerKey) :
    (s.removeFromQueueLocked w key).waiters = s.waiters := by
  obtain ⟨subjects, rotor, same⟩ := removeFromQueueLocked_frame s w key
  rw [same]

theorem abandon_moved (known : s.waiters[w]? = some waiter) :
    Moved s.waiters (s.abandon w waiter).1.waiters := by
  unfold Scheduler.abandon
  split_ifs with settled granted
  · exact .refl _
  · rw [releaseLocked_waiters]
    exact moved_modify known (.resolve (by simpa using settled))
  · rw [removeFromQueueLocked_waiters]
    exact moved_modify known (.resolve (by simpa using settled))

theorem release_moved (known : s.waiters[w]? = some waiter) :
    Moved s.waiters (s.release w waiter).1.waiters := by
  unfold Scheduler.release
  split_ifs with ignored
  · exact .refl _
  · rw [releaseLocked_waiters]
    refine moved_modify known (.resolve ?_)
    simp only [Bool.or_eq_true, not_or, Bool.not_eq_true] at ignored
    exact ignored.1

theorem Granted.moved {s' : Scheduler} {key : CallerKey} (granted : Granted s w key s') :
    Moved s.waiters s'.waiters := by
  cases granted with
  | mk _ _ _ _ _ _ _ _ _ known waiting => exact moved_modify known (.grant waiting)

end Waiters

def enqueued (stopped : Bool) (key : CallerKey) : Waiter :=
  if stopped then (Waiter.new key).stop else .new key

theorem enqueue_waiters (s : Scheduler) (stopped : Bool) (key : CallerKey) :
    (s.enqueue stopped key).waiters = s.waiters ++ [enqueued stopped key] := by
  cases stopped <;> rfl

theorem Stepped.moved {st st' : System} {a : Action} {chosen : Option CallerKey}
    (ok : Ok st.sched) (stepped : Stepped st a chosen st') :
    Moved st.sched.waiters st'.sched.waiters ∨
      (∃ key, st'.sched.waiters = st.sched.waiters ++ [enqueued st.stopped key]) := by
  cases stepped with
  | enqueue key _ => exact .inr ⟨key, enqueue_waiters _ _ key⟩
  | abandon w waiter _ known => exact .inl (abandon_moved known)
  | release w waiter _ known => exact .inl (release_moved known)
  | paced _ _ granted => exact .inl granted.moved
  | unpaced _ granted => exact .inl granted.moved
  | drain order _ ranges =>
      rw [drain_waiters ok ranges]
      exact .inl (moved_map_stopIf _ _)
  | _ => exact .inl (.refl _)

structure Sound (w : Waiter) : Prop where
  closes : w.closes = w.granted.toNat + w.err.isSome.toNat
  apart : w.err.isSome = true → w.granted = false

theorem Move.sound {w w' : Waiter} (move : Move w w') (sound : Sound w) : Sound w' := by
  cases move with
  | stay => exact sound
  | grant waiting =>
      simp only [pending, Bool.and_eq_true, Bool.not_eq_true', Option.isNone_iff_eq_none] at waiting
      obtain ⟨⟨ungranted, -⟩, unstopped⟩ := waiting
      have closes := sound.closes
      simp only [ungranted, unstopped] at closes
      exact ⟨by simp [Waiter.grant, closes, unstopped], by simp [Waiter.grant, unstopped]⟩
  | stop waiting =>
      simp only [pending, Bool.and_eq_true, Bool.not_eq_true', Option.isNone_iff_eq_none] at waiting
      obtain ⟨⟨ungranted, -⟩, unstopped⟩ := waiting
      have closes := sound.closes
      simp only [ungranted, unstopped] at closes
      exact ⟨by simp [Waiter.stop, closes, ungranted], fun _ => ungranted⟩
  | resolve => exact ⟨sound.closes, sound.apart⟩

theorem Sound.closes_le {w : Waiter} (sound : Sound w) : w.closes ≤ 1 := by
  have closes := sound.closes
  cases stopped : w.err.isSome with
  | false =>
      have bound := Bool.toNat_le w.granted
      simp only [stopped, Bool.toNat_false, Nat.add_zero] at closes
      omega
  | true =>
      simp only [stopped, sound.apart stopped] at closes
      exact Nat.le_of_eq closes

theorem Move.pending_false {w w' : Waiter} (move : Move w w') (settled : pending w = false) :
    pending w' = false := by
  cases move with
  | stay => exact settled
  | grant waiting => simp [settled] at waiting
  | stop waiting => simp [settled] at waiting
  | resolve => simp [pending, Waiter.resolve]

theorem Move.granted_eq {w w' : Waiter} (move : Move w w') (settled : pending w = false) :
    w'.granted = w.granted := by
  cases move with
  | grant waiting => simp [settled] at waiting
  | _ => rfl

theorem enqueued_sound (stopped : Bool) (key : CallerKey) : Sound (enqueued stopped key) := by
  cases stopped with
  | false => exact ⟨rfl, fun stopped => nomatch stopped⟩
  | true => exact ⟨rfl, fun _ => rfl⟩

theorem Stepped.sound {st st' : System} {a : Action} {chosen : Option CallerKey}
    (ok : Ok st.sched) (stepped : Stepped st a chosen st')
    (sound : ∀ w ∈ st.sched.waiters, Sound w) : ∀ w ∈ st'.sched.waiters, Sound w := by
  intro w' member
  rcases stepped.moved ok with moved | ⟨key, same⟩
  · obtain ⟨i, found⟩ := List.mem_iff_getElem?.mp member
    obtain ⟨w, before, move⟩ := moved.back found
    exact move.sound (sound w (List.mem_of_getElem? before))
  · rw [same, List.mem_append, List.mem_singleton] at member
    rcases member with old | rfl
    · exact sound w' old
    · exact enqueued_sound st.stopped key

structure Wound (st : System) : Prop where
  ok : Ok st.sched
  sound : ∀ w ∈ st.sched.waiters, Sound w
  leaving : st.dispatcher = .draining ∨ st.dispatcher = .exited → st.stopped = true
  settled : st.dispatcher = .exited → ∀ w ∈ st.sched.waiters, pending w = false

theorem Stepped.leaving {st st' : System} {a : Action} {chosen : Option CallerKey}
    (stepped : Stepped st a chosen st')
    (leaving : st.dispatcher = .draining ∨ st.dispatcher = .exited → st.stopped = true) :
    st'.dispatcher = .draining ∨ st'.dispatcher = .exited → st'.stopped = true := by
  cases stepped with
  | stop => exact fun _ => rfl
  | seeStopped _ stopped => exact fun _ => stopped
  | drain _ draining => exact fun _ => leaving (.inl draining)
  | tick | wakeUp | broke | passOver | paced | enter | exhausted => exact fun left => by simp at left
  | _ => exact leaving

theorem Stepped.stay_exited {st st' : System} {a : Action} {chosen : Option CallerKey}
    (stepped : Stepped st a chosen st') (exited : st.dispatcher = .exited) :
    st'.dispatcher = .exited ∧ chosen = none := by
  cases stepped with
  | tick waiting | wakeUp waiting | seeStopped waiting => cases exited.symm.trans waiting
  | broke _ woken => cases exited.symm.trans woken
  | passOver _ affordable | paced _ affordable =>
      rcases affordable with ticked | woken
      · cases exited.symm.trans ticked
      · cases exited.symm.trans woken.1
  | enter _ _ before =>
      rcases before with ticked | woken
      · cases exited.symm.trans ticked
      · cases exited.symm.trans woken
  | exhausted granting | unpaced granting => cases exited.symm.trans granting
  | drain _ draining => cases exited.symm.trans draining
  | _ => exact ⟨exited, rfl⟩

theorem Stepped.settled {st st' : System} {a : Action} {chosen : Option CallerKey}
    (wound : Wound st) (stepped : Stepped st a chosen st') (exited : st'.dispatcher = .exited) :
    ∀ w ∈ st'.sched.waiters, pending w = false := by
  intro w' member
  by_cases before : st.dispatcher = .exited
  · rcases stepped.moved wound.ok with moved | ⟨key, same⟩
    · obtain ⟨i, found⟩ := List.mem_iff_getElem?.mp member
      obtain ⟨w, old, move⟩ := moved.back found
      exact move.pending_false (wound.settled before w (List.mem_of_getElem? old))
    · rw [same, List.mem_append, List.mem_singleton] at member
      rcases member with old | rfl
      · exact wound.settled before w' old
      · rw [wound.leaving (.inr before)]
        rfl
  · cases stepped with
    | drain order _ ranges =>
        simp only [drain_waiters wound.ok ranges] at member
        obtain ⟨w, -, rfl⟩ := List.mem_map.mp member
        simp [pending_stopIf]
    | tick | wakeUp | broke | passOver | paced | enter | exhausted | seeStopped => cases exited
    | _ => exact absurd exited before

theorem Wound.step {st st' : System} {a : Action} (wound : Wound st)
    (step : st.step a = some st') : Wound st' := by
  have stepped := step_stepped wound.ok step
  exact ⟨stepped.ok wound.ok, stepped.sound wound.ok wound.sound, stepped.leaving wound.leaving,
    stepped.settled wound⟩

theorem start_wound {sem : Semaphore} (fresh : sem = ⟨sem.cap, 0, false⟩) (positive : 1 ≤ sem.cap)
    (enabled : Bool) (limit : Int) : Wound (.start sem enabled limit) := by
  refine ⟨?_, ?_, ?_, ?_⟩
  · rw [fresh]
    exact newScheduler_ok sem.cap positive enabled limit
  · simp [System.start, newScheduler]
  · simp [System.start]
  · simp [System.start]

theorem reachable_wound {cap : Nat} {enabled : Bool} {limit : Int} {st : System}
    (positive : 1 ≤ cap) (reachable : Reachable cap enabled limit st) : Wound st := by
  obtain ⟨history, run⟩ := reachable
  have start : Wound (.start ⟨cap, 0, false⟩ enabled limit) :=
    start_wound rfl positive enabled limit
  exact (run.invariant start fun _ _ _ => Wound.step).1

theorem run_exited {st st' : System} {history : List (System × Action)} (wound : Wound st)
    (run : Run System.step st history st') (exited : st.dispatcher = .exited) :
    (∀ p ∈ history, p.1.granted p.2 = none) ∧
      ∀ (i : Nat) (w' : Waiter), st'.sched.waiters[i]? = some w' → w'.granted = true →
        ∃ w, st.sched.waiters[i]? = some w ∧ w.granted = true := by
  induction run with
  | nil => exact ⟨by simp, fun i w' found granted => ⟨w', found, granted⟩⟩
  | @cons s t u a history taken _ ih =>
      have stepped := step_stepped wound.ok taken
      obtain ⟨exited', silent⟩ := stepped.stay_exited exited
      obtain ⟨rest, kept⟩ := ih (wound.step taken) exited'
      have none : s.granted a = none := by
        have same := granted_isSome wound.ok a
        rw [silent] at same
        exact Option.isNone_iff_eq_none.mp (by simpa using same)
      refine ⟨?_, fun i w' found granted => ?_⟩
      · rintro p (_ | ⟨_, member⟩)
        · exact none
        · exact rest p member
      · obtain ⟨w, later, granted⟩ := kept i w' found granted
        rcases stepped.moved wound.ok with moved | ⟨key, same⟩
        · obtain ⟨v, before, move⟩ := moved.back later
          have settled := wound.settled exited v (List.mem_of_getElem? before)
          exact ⟨v, before, move.granted_eq settled ▸ granted⟩
        · rw [same, wound.leaving (.inr exited)] at later
          by_cases inside : i < s.sched.waiters.length
          · rw [List.getElem?_append_left inside] at later
            exact ⟨w, later, granted⟩
          · rw [List.getElem?_append_right (by omega)] at later
            have fresh : w = enqueued true key := by simpa using List.mem_of_getElem? later
            rw [fresh] at granted
            cases granted

structure SameCounters (s s' : Scheduler) : Prop where
  sem : s'.sem = s.sem
  inFlight : s'.inFlight = s.inFlight
  rotor : s'.rotor = s.rotor
  size : s'.subjects.size = s.subjects.size
  subject : ∀ k, (s'.subject k).inFlight = (s.subject k).inFlight ∧
    (s'.subject k).rotor = (s.subject k).rotor ∧
    (s'.subject k).sessions.size = (s.subject k).sessions.size
  session : ∀ key, s'.session key = s.session key

theorem sameCounters_of_waiters (s : Scheduler) (ws : List Waiter) :
    SameCounters s { s with waiters := ws } :=
  ⟨rfl, rfl, rfl, rfl, fun _ => ⟨rfl, rfl, rfl⟩, fun _ => rfl⟩

theorem unqueued_sameCounters {s : Scheduler} {w : Nat} {key : CallerKey} {subj : SubjectState}
    {cs : SessionState} (found : s.subjects.lookup key.subject = some subj)
    (entry : subj.sessions.lookup key.session = some cs) (absent : w ∉ cs.queue) :
    SameCounters s (unqueued s w key subj cs) := by
  have same : ({ cs with queue := cs.queue.erase w } : SessionState) = cs := by
    rw [List.erase_of_not_mem absent]
  refine ⟨rfl, rfl, rfl, AList.size_insert_of_lookup found _, fun k => ?_, fun k => ?_⟩
  · have stored : (unqueued s w key subj cs).subject k = _ := subject_insert rfl k
    rw [stored]
    split_ifs with here
    · rw [here, subject_eq found]
      exact ⟨rfl, rfl, AList.size_insert_of_lookup entry _⟩
    · exact ⟨rfl, rfl, rfl⟩
  · have stored : (unqueued s w key subj cs).session k = _ :=
      session_store rfl (by rw [subject_eq found]; rfl) k
    rw [stored, same]
    split_ifs with here
    · rw [here, session_of_lookup found entry]
    · rfl

theorem removeFromQueueLocked_sameCounters {s : Scheduler} (ok : Ok s) {w : Nat} {waiter : Waiter}
    (known : s.waiters[w]? = some waiter) (settled : pending waiter = false) :
    SameCounters s ({ s with waiters := s.waiters.modify w Waiter.resolve }.removeFromQueueLocked w
      waiter.key) := by
  cases found : s.subjects.lookup waiter.key.subject with
  | none =>
      simp only [Scheduler.removeFromQueueLocked, found]
      exact sameCounters_of_waiters s _
  | some subj =>
      cases entry : subj.sessions.lookup waiter.key.session with
      | none =>
          simp only [Scheduler.removeFromQueueLocked, found, entry]
          exact sameCounters_of_waiters s _
      | some cs =>
          have absent : w ∉ cs.queue := by
            rw [← session_of_lookup found entry, ok.queue, mem_pendingIds]
            rintro ⟨v, known', -, waiting⟩
            obtain rfl := Option.some.inj (known.symm.trans known')
            simp [settled] at waiting
          have active : SessionState.active { cs with queue := cs.queue.erase w } = true := by
            rw [List.erase_of_not_mem absent]
            exact ok.busy _ _ found _ _ entry id
          have kept : (unqueued s w waiter.key subj cs).pruneSessionLocked waiter.key =
              unqueued s w waiter.key subj cs := by
            simp [Scheduler.pruneSessionLocked, unqueued, unqueuedSubject, active]
          rw [removeFromQueueLocked_eq found entry, kept]
          exact unqueued_sameCounters found entry absent

theorem abandon_sameCounters {s : Scheduler} (ok : Ok s) {w : Nat} {waiter : Waiter}
    (known : s.waiters[w]? = some waiter) (sound : Sound waiter)
    (stopped : waiter.err.isSome = true) : SameCounters s (s.abandon w waiter).1 := by
  have ungranted := sound.apart stopped
  have settled : pending waiter = false := by
    obtain ⟨err, same⟩ := Option.isSome_iff_exists.mp stopped
    simp [pending, same]
  unfold Scheduler.abandon
  split_ifs with resolved granted
  · exact sameCounters_of_waiters s s.waiters
  · simp [ungranted] at granted
  · exact removeFromQueueLocked_sameCounters ok known settled

theorem release_stopped {s : Scheduler} {w : Nat} {waiter : Waiter} (sound : Sound waiter)
    (stopped : waiter.err.isSome = true) : (s.release w waiter).1 = s := by
  simp [Scheduler.release, sound.apart stopped]

theorem empty_of_settled {s : Scheduler} (ok : Ok s) (settled : ∀ w ∈ s.waiters, pending w = false)
    (returned : ∀ w ∈ s.waiters, holding w = false) :
    s.subjects = ∅ ∧ s.rotor.keys = [] ∧ s.sem.len = 0 := by
  have idle (key : CallerKey) : (s.session key).active = false := by
    have queue : (s.session key).queue = [] := by
      rw [ok.queue, List.eq_nil_iff_forall_not_mem]
      intro i queued
      obtain ⟨w, found, -, waiting⟩ := mem_pendingIds.mp queued
      simp [settled w (List.mem_of_getElem? found)] at waiting
    have inFlight : (s.session key).inFlight = 0 := by
      rw [ok.held, holders, List.countP_eq_zero]
      intro w member
      simp [returned w member]
    simp [SessionState.active, queue, inFlight]
  have nobody (k : String) : k ∉ s.subjects := by
    intro member
    obtain ⟨m, active⟩ := (subject_present ok k).mp member
    simp [idle] at active
  have empty : s.subjects = ∅ := by
    apply AList.ext
    rw [List.eq_nil_iff_forall_not_mem.mpr fun e inside => nobody e.1 (List.mem_keys_of_mem inside)]
    rfl
  refine ⟨empty, ?_, ?_⟩
  · rw [List.eq_nil_iff_forall_not_mem]
    intro k member
    exact nobody k ((ok.outer.covers k).mp (Rotor.mem_order.mpr member))
  · rw [ok.slots.len, ok.outer.total, empty]
    rfl

theorem stop_loses_no_waiter (cap : Nat) (enabled : Bool) (limit : Int) (positive : 1 ≤ cap)
    {st : System} (reachable : Reachable cap enabled limit st) :
    (∀ w ∈ st.sched.waiters, w.closes ≤ 1) ∧
    (∀ (i : Nat) (w : Waiter), st.sched.waiters[i]? = some w → w.err.isSome = true →
      w.granted = false ∧ w.closes = 1 ∧ (st.sched.release i w).1 = st.sched ∧
        SameCounters st.sched (st.sched.abandon i w).1) ∧
    (st.dispatcher = .exited →
      (∀ w ∈ st.sched.waiters, w.granted = true ∨ w.resolved = true ∨
        w.err = some .errSchedulerStopped ∧ w.closes = 1) ∧
      (∀ history st', Run System.step st history st' →
        (∀ p ∈ history, p.1.granted p.2 = none) ∧
          ∀ (i : Nat) (w' : Waiter), st'.sched.waiters[i]? = some w' → w'.granted = true →
            ∃ w, st.sched.waiters[i]? = some w ∧ w.granted = true) ∧
      ((∀ w ∈ st.sched.waiters, w.granted = true → w.resolved = true) →
        st.sched.subjects = ∅ ∧ st.sched.rotor.keys = [] ∧ st.sched.sem.len = 0)) := by
  have wound := reachable_wound positive reachable
  have stopped_closes {w : Waiter} (sound : Sound w) (stopped : w.err.isSome = true) :
      w.closes = 1 := by
    rw [sound.closes, stopped, sound.apart stopped]
    rfl
  refine ⟨fun w member => (wound.sound w member).closes_le, ?_, fun exited => ⟨?_, ?_, ?_⟩⟩
  · intro i w known stopped
    have sound := wound.sound w (List.mem_of_getElem? known)
    exact ⟨sound.apart stopped, stopped_closes sound stopped, release_stopped sound stopped,
      abandon_sameCounters wound.ok known sound stopped⟩
  · intro w member
    have settled := wound.settled exited w member
    cases stopped : w.err with
    | none =>
        cases granted : w.granted with
        | true => exact .inl rfl
        | false =>
            cases resolved : w.resolved with
            | true => exact .inr (.inl rfl)
            | false => simp [pending, stopped, granted, resolved] at settled
    | some reason =>
        cases reason
        exact .inr (.inr ⟨rfl, stopped_closes (wound.sound w member) (by simp [stopped])⟩)
  · exact fun history st' run => run_exited wound run exited
  · intro returned
    apply empty_of_settled wound.ok (wound.settled exited)
    intro w member
    cases granted : w.granted with
    | false => simp [holding, granted]
    | true => simp [holding, returned w member granted]

-- One waiter is granted, one is stopped by the drain, one arrives after the stop.
theorem stop_loses_no_waiter_of_three : ∃ st, Reachable 2 true 1 st ∧ st.dispatcher = .exited ∧
    st.sched.waiters.length = 3 ∧ st.sched.subjects = ∅ ∧ st.sched.rotor.keys = [] ∧
    st.sched.sem.len = 0 ∧ ∀ w ∈ st.sched.waiters, w.closes ≤ 1 := by
  obtain ⟨st, begun, exited, three, returned⟩ : ∃ st,
      exec System.step (.start ⟨2, 0, false⟩ true 1)
        [.enqueue ⟨"a", "x"⟩, .enqueue ⟨"a", "x"⟩, .tick, .pass, .stop, .enqueue ⟨"b", "x"⟩,
          .seeStopped, .drain [("a", ["x"])], .release 0, .abandon 1] = some st ∧
      st.dispatcher = .exited ∧ st.sched.waiters.length = 3 ∧
      ∀ w ∈ st.sched.waiters, w.granted = true → w.resolved = true :=
    ⟨_, rfl, rfl, rfl, by decide⟩
  have reachable : Reachable 2 true 1 st := ⟨_, run_of_exec begun⟩
  obtain ⟨once, -, after⟩ := stop_loses_no_waiter 2 true 1 (by decide) reachable
  obtain ⟨subjects, rotor, sem⟩ := (after exited).2.2 returned
  exact ⟨st, reachable, exited, three, subjects, rotor, sem, once⟩

end BrokerMcp.Proof.Scheduler
