import BrokerMcp.Proof.Scheduler.Stepping

namespace BrokerMcp.Proof.Scheduler
open Resilience Transition

structure SameLimits (s s' : Scheduler) : Prop where
  limit : s'.limit = s.limit
  paced : s'.paced = s.paced
  cap : s'.sem.cap = s.sem.cap

structure Kept (s s' : Scheduler) : Prop extends SameLimits s s' where
  credit : s'.credit = s.credit

theorem SameLimits.trans {s t u : Scheduler} (first : SameLimits s t) (second : SameLimits t u) :
    SameLimits s u :=
  ⟨second.limit.trans first.limit, second.paced.trans first.paced, second.cap.trans first.cap⟩

theorem Kept.refl (s : Scheduler) : Kept s s := ⟨⟨rfl, rfl, rfl⟩, rfl⟩

theorem Kept.after {s t u : Scheduler} (second : Kept t u) (first : Kept s t) : Kept s u :=
  ⟨first.toSameLimits.trans second.toSameLimits, second.credit.trans first.credit⟩

theorem prune_kept (s : Scheduler) (key : CallerKey) : Kept s (s.pruneSessionLocked key) := by
  obtain ⟨subjects, rotor, same⟩ := prune_frame s key
  rw [same]
  exact ⟨⟨rfl, rfl, rfl⟩, rfl⟩

theorem enqueue_kept (s : Scheduler) (stopped : Bool) (key : CallerKey) :
    Kept s (s.enqueue stopped key) := by
  cases stopped <;> exact ⟨⟨rfl, rfl, rfl⟩, rfl⟩

theorem receive_cap (sem : Semaphore) : sem.receive.cap = sem.cap := by
  unfold Semaphore.receive
  split_ifs <;> rfl

theorem send_cap (sem : Semaphore) : sem.send.cap = sem.cap := by
  unfold Semaphore.send
  split_ifs <;> rfl

theorem releaseLocked_kept (s : Scheduler) (key : CallerKey) :
    Kept s (s.releaseLocked key) := by
  unfold Scheduler.releaseLocked
  split
  · exact .refl s
  · split
    · exact .refl s
    · split_ifs with none
      · exact .refl s
      · exact (prune_kept _ key).after ⟨⟨rfl, rfl, receive_cap s.sem⟩, rfl⟩

theorem removeFromQueueLocked_frame (s : Scheduler) (w : Nat) (key : CallerKey) :
    ∃ subjects rotor, s.removeFromQueueLocked w key = { s with subjects, rotor } := by
  unfold Scheduler.removeFromQueueLocked
  split
  · exact ⟨s.subjects, s.rotor, rfl⟩
  · split
    · exact ⟨s.subjects, s.rotor, rfl⟩
    · exact prune_frame _ key

theorem removeFromQueueLocked_kept (s : Scheduler) (w : Nat) (key : CallerKey) :
    Kept s (s.removeFromQueueLocked w key) := by
  obtain ⟨subjects, rotor, same⟩ := removeFromQueueLocked_frame s w key
  rw [same]
  exact ⟨⟨rfl, rfl, rfl⟩, rfl⟩

theorem release_kept (s : Scheduler) (w : Nat) (waiter : Waiter) :
    Kept s (s.release w waiter).1 := by
  unfold Scheduler.release
  split_ifs
  · exact .refl s
  · exact (releaseLocked_kept _ waiter.key).after ⟨⟨rfl, rfl, rfl⟩, rfl⟩

theorem abandon_kept (s : Scheduler) (w : Nat) (waiter : Waiter) :
    Kept s (s.abandon w waiter).1 := by
  unfold Scheduler.abandon
  split_ifs
  · exact .refl s
  · exact (releaseLocked_kept _ waiter.key).after ⟨⟨rfl, rfl, rfl⟩, rfl⟩
  · exact (removeFromQueueLocked_kept _ w waiter.key).after ⟨⟨rfl, rfl, rfl⟩, rfl⟩

theorem Granted.kept {s s' : Scheduler} {w : Nat} {key : CallerKey}
    (granted : Granted s w key s') : Kept s s' := by
  cases granted with
  | mk => exact ⟨⟨rfl, rfl, send_cap s.sem⟩, rfl⟩

theorem drainSubject_kept (s : Scheduler) (entry : String × List String) :
    Kept s (s.drainSubject entry) := by
  unfold Scheduler.drainSubject
  split
  · exact .refl s
  · dsimp only
    split_ifs <;> exact ⟨⟨rfl, rfl, rfl⟩, rfl⟩

theorem drain_kept (s : Scheduler) (order : List (String × List String)) :
    Kept s (s.drain order) := by
  unfold Scheduler.drain
  induction order generalizing s with
  | nil => exact .refl s
  | cons entry order ih => exact (ih _).after (drainSubject_kept s entry)

theorem Stepped.limits {st st' : System} {a : Action} {chosen : Option CallerKey}
    (stepped : Stepped st a chosen st') : SameLimits st.sched st'.sched := by
  cases stepped with
  | enqueue key _ => exact (enqueue_kept _ _ key).toSameLimits
  | abandon w waiter _ _ => exact (abandon_kept _ w waiter).toSameLimits
  | release w waiter _ _ => exact (release_kept _ w waiter).toSameLimits
  | paced _ _ granted => exact granted.kept.toSameLimits.trans ⟨rfl, rfl, rfl⟩
  | unpaced _ granted => exact granted.kept.toSameLimits
  | drain order => exact (drain_kept _ order).toSameLimits
  | _ => exact ⟨rfl, rfl, rfl⟩

theorem step_ok {st st' : System} {a : Action} (ok : Ok st.sched) (step : st.step a = some st') :
    Ok st'.sched :=
  (step_stepped ok step).ok ok

structure Running (start : Scheduler) (st : System) : Prop where
  ok : Ok st.sched
  limits : SameLimits start st.sched

theorem Running.step {start : Scheduler} {st st' : System} {a : Action}
    (running : Running start st) (step : st.step a = some st') : Running start st' where
  ok := step_ok running.ok step
  limits := running.limits.trans (step_stepped running.ok step).limits

theorem run_ok {st st' : System} {history : List (System × Action)}
    (run : Run System.step st history st') (ok : Ok st.sched) :
    Ok st'.sched ∧ ∀ p ∈ history, Ok p.1.sched :=
  run.invariant ok fun _ _ _ => step_ok

theorem reachable_running {cap : Nat} {enabled : Bool} {limit : Int} {st : System}
    (positive : 1 ≤ cap) (reachable : Reachable cap enabled limit st) :
    Running (newScheduler ⟨cap, 0, false⟩ enabled limit) st := by
  obtain ⟨history, run⟩ := reachable
  have start : Running (newScheduler ⟨cap, 0, false⟩ enabled limit)
      (.start ⟨cap, 0, false⟩ enabled limit) :=
    ⟨newScheduler_ok cap positive enabled limit, rfl, rfl, rfl⟩
  exact (run.invariant start fun _ _ _ => Running.step).1

theorem reachable_ok {cap : Nat} {enabled : Bool} {limit : Int} {st : System}
    (positive : 1 ≤ cap) (reachable : Reachable cap enabled limit st) : Ok st.sched :=
  (reachable_running positive reachable).ok

structure Balanced (s : Scheduler) : Prop where
  semaphore : s.inFlight = s.sem.len
  subjects : s.inFlight = s.subjects.total SubjectState.inFlight
  sessions : s.inFlight = s.subjects.total fun subj => subj.sessions.total SessionState.inFlight
  holders : ∀ key, (s.session key).inFlight =
    s.waiters.countP fun w => w.key = key && (w.granted && !w.resolved)
  bounded : s.inFlight ≤ s.limit ∧ s.limit ≤ s.sem.cap
  unblocked : s.sem.wedged = false
  queued : ∀ key, (s.session key).queue.Nodup ∧ ∀ i, i ∈ (s.session key).queue ↔
    ∃ w, s.waiters[i]? = some w ∧ w.key = key ∧
      w.granted = false ∧ w.resolved = false ∧ w.err = none
  sessionPresent : ∀ k m, (∃ subj, s.subjects.lookup k = some subj ∧ m ∈ subj.sessions) ↔
    (s.session ⟨k, m⟩).queue ≠ [] ∨ 0 < (s.session ⟨k, m⟩).inFlight
  subjectPresent : ∀ k, k ∈ s.subjects ↔
    ∃ m, (s.session ⟨k, m⟩).queue ≠ [] ∨ 0 < (s.session ⟨k, m⟩).inFlight
  outerRing : s.rotor.keys.Nodup ∧ ∀ k, k ∈ s.rotor.keys ↔ k ∈ s.subjects
  innerRings : ∀ k subj, s.subjects.lookup k = some subj →
    subj.rotor.keys.Nodup ∧ ∀ m, m ∈ subj.rotor.keys ↔ m ∈ subj.sessions

section Balanced

variable {s : Scheduler} (ok : Ok s)
include ok

theorem total_sessions :
    s.inFlight = s.subjects.total fun subj => subj.sessions.total SessionState.inFlight := by
  rw [ok.outer.total]
  unfold AList.total
  congr 1
  apply List.map_congr_left
  intro e member
  exact (ok.inner e.1 e.2 (AList.mem_lookup_iff.mpr member)).total

theorem mem_queue (key : CallerKey) (i : Nat) : i ∈ (s.session key).queue ↔
    ∃ w, s.waiters[i]? = some w ∧ w.key = key ∧
      w.granted = false ∧ w.resolved = false ∧ w.err = none := by
  rw [ok.queue, mem_pendingIds]
  simp [pending, and_assoc]

omit ok in
theorem active_iff (cs : SessionState) : cs.active = true ↔ cs.queue ≠ [] ∨ 0 < cs.inFlight := by
  simp [SessionState.active]

theorem session_present (k m : String) :
    (∃ subj, s.subjects.lookup k = some subj ∧ m ∈ subj.sessions) ↔
      (s.session ⟨k, m⟩).active = true := by
  constructor
  · rintro ⟨subj, found, member⟩
    obtain ⟨cs, entry⟩ := Option.isSome_iff_exists.mp (AList.lookup_isSome.mpr member)
    rw [session_of_lookup found entry]
    exact ok.busy k subj found m cs entry id
  · intro active
    cases found : s.subjects.lookup k with
    | none =>
        have none : s.session ⟨k, m⟩ = .new := session_of_no_subject found
        simp [none, SessionState.active, SessionState.new] at active
    | some subj =>
        cases entry : subj.sessions.lookup m with
        | none =>
            have none : s.session ⟨k, m⟩ = .new := session_of_no_session found entry
            simp [none, SessionState.active, SessionState.new] at active
        | some cs => exact ⟨subj, rfl, AList.lookup_isSome.mp (by simp [entry])⟩

theorem subject_present (k : String) :
    k ∈ s.subjects ↔ ∃ m, (s.session ⟨k, m⟩).active = true := by
  constructor
  · intro member
    obtain ⟨subj, found⟩ := Option.isSome_iff_exists.mp (AList.lookup_isSome.mpr member)
    have occupied := ok.occupied k subj found
    cases entries : subj.sessions.entries with
    | nil => simp [AList.size, entries] at occupied
    | cons e rest =>
        refine ⟨e.1, (session_present ok k e.1).mp ⟨subj, found, ?_⟩⟩
        have inside : e ∈ subj.sessions.entries := by simp [entries]
        exact List.mem_keys_of_mem inside
  · rintro ⟨m, active⟩
    obtain ⟨subj, found, -⟩ := (session_present ok k m).mpr active
    exact AList.lookup_isSome.mp (by simp [found])

omit ok in
theorem ring_of_accounted {ν : Type} {weight : ν → Nat} {rotor : Rotor}
    {table : AList fun _ : String => ν} {n : Nat} (accounted : Accounted weight rotor table n) :
    rotor.keys.Nodup ∧ ∀ k, k ∈ rotor.keys ↔ k ∈ table :=
  ⟨keys_nodup accounted, fun k => Rotor.mem_order.symm.trans (accounted.covers k)⟩

theorem balanced : Balanced s where
  semaphore := ok.slots.len.symm
  subjects := ok.outer.total
  sessions := total_sessions ok
  holders := ok.held
  bounded := ⟨ok.slots.bound, ok.slots.cap⟩
  unblocked := ok.slots.free
  queued key := ⟨ok.queue key ▸ nodup_pendingIds _ _, mem_queue ok key⟩
  sessionPresent k m := (session_present ok k m).trans (active_iff _)
  subjectPresent k := by simp only [subject_present ok k, active_iff]
  outerRing := ring_of_accounted ok.outer
  innerRings k subj found := ring_of_accounted (ok.inner k subj found)

end Balanced

theorem scheduler_accounting (cap : Nat) (enabled : Bool) (limit : Int) (positive : 1 ≤ cap)
    {st : System} (reachable : Reachable cap enabled limit st) :
    Balanced st.sched ∧ st.sched.sem.cap = cap ∧ st.sched.paced = enabled ∧
      st.sched.limit = if limit < 1 ∨ limit > cap then cap else limit.toNat := by
  have running := reachable_running positive reachable
  exact ⟨balanced running.ok, running.limits.cap, running.limits.paced, running.limits.limit⟩

theorem scheduler_accounting_race : ∃ st, Reachable 2 true 5 st ∧ st.sched.inFlight = 1 ∧
    st.sched.rotor.keys = ["a"] ∧ Balanced st.sched := by
  obtain ⟨st, done, held, ring⟩ : ∃ st, exec System.step (.start ⟨2, 0, false⟩ true 5)
      [.enqueue ⟨"a", "x"⟩, .enqueue ⟨"b", "x"⟩, .enqueue ⟨"a", "y"⟩, .tick, .pass, .tick, .pass,
        .abandon 1, .release 1, .release 0, .release 0, .signal, .wakeUp, .pass, .tick, .pass] =
        some st ∧ st.sched.inFlight = 1 ∧ st.sched.rotor.keys = ["a"] := ⟨_, rfl, rfl, rfl⟩
  have reachable : Reachable 2 true 5 st := ⟨_, run_of_exec done⟩
  exact ⟨st, reachable, held, ring, (scheduler_accounting 2 true 5 (by decide) reachable).1⟩

end BrokerMcp.Proof.Scheduler
