import BrokerMcp.Proof.Scheduler.Stopping
import BrokerMcp.Resilience.Sender

namespace BrokerMcp.Proof.Scheduler
open Resilience Transition

section Operations

variable {s : Scheduler} {w : Nat} {waiter : Waiter}

theorem releaseLocked_len (ok : Ok s) (known : s.waiters[w]? = some waiter)
    (holds : holding waiter = true) :
    ({ s with waiters := s.waiters.modify w Waiter.resolve }.releaseLocked waiter.key).sem.len + 1 =
      s.sem.len := by
  obtain ⟨subj, cs, subject, entry, counted⟩ := holder_held ok known holds
  obtain ⟨subjects, rotor, frame⟩ := prune_frame (released s w waiter.key subj cs) waiter.key
  have inSubject : cs.inFlight ≤ subj.inFlight := by
    rw [(ok.inner _ _ subject).total]
    exact AList.le_total entry _
  have inTotal : subj.inFlight ≤ s.inFlight := by
    rw [ok.outer.total]
    exact AList.le_total subject _
  have occupied : 0 < s.sem.len := by
    rw [ok.slots.len]
    omega
  rw [releaseLocked_eq subject entry counted, frame]
  simp only [released, Semaphore.receive, if_pos occupied]
  omega

theorem release_holding (ok : Ok s) (known : s.waiters[w]? = some waiter)
    (holds : holding waiter = true) :
    (s.release w waiter).1.waiters = s.waiters.modify w Waiter.resolve ∧
      (s.release w waiter).1.sem.len + 1 = s.sem.len := by
  have guard : ¬ (waiter.resolved || !waiter.granted) = true := by
    simpa [holding, and_comm] using holds
  rw [Scheduler.release, if_neg guard]
  exact ⟨releaseLocked_waiters _ _, releaseLocked_len ok known holds⟩

theorem abandon_unresolved (ok : Ok s) (known : s.waiters[w]? = some waiter)
    (unsettled : waiter.resolved = false) :
    (s.abandon w waiter).1.waiters = s.waiters.modify w Waiter.resolve ∧
      (s.abandon w waiter).1.sem.len + waiter.granted.toNat = s.sem.len := by
  have guard : ¬ waiter.resolved = true := by simp [unsettled]
  rw [Scheduler.abandon, if_neg guard]
  cases granted : waiter.granted with
  | true =>
      have holds : holding waiter = true := by simp [holding, granted, unsettled]
      exact ⟨releaseLocked_waiters _ _, releaseLocked_len ok known holds⟩
  | false =>
      obtain ⟨subjects, rotor, same⟩ := removeFromQueueLocked_frame
        { s with waiters := s.waiters.modify w Waiter.resolve } w waiter.key
      exact ⟨removeFromQueueLocked_waiters _ _ _, by simp [same]⟩

theorem Granted.slot {s' : Scheduler} {key : CallerKey} (ok : Ok s)
    (granted : Granted s w key s') : ∃ waiter, s.waiters[w]? = some waiter ∧
      pending waiter = true ∧ s'.waiters = s.waiters.modify w Waiter.grant ∧
      s'.sem.len = s.sem.len + 1 := by
  have len : s'.sem.len = s.sem.len + 1 := by
    rw [(granted.ok ok).slots.len, ok.slots.len]
    cases granted with
    | mk => rfl
  cases granted with
  | mk _ _ _ _ _ _ _ _ _ known waiting => exact ⟨_, known, waiting, rfl, len⟩

end Operations

inductive Dispatched (st : System) (a : Action) (st' : System) : Prop where
  | grant {w : Nat} {waiter : Waiter} (hit : st.granted a = some w)
      (known : st.sched.waiters[w]? = some waiter) (waiting : pending waiter = true)
      (waiters : st'.sched.waiters = st.sched.waiters.modify w Waiter.grant)
      (len : st'.sched.sem.len = st.sched.sem.len + 1)
  | drain (silent : st.granted a = none)
      (waiters : st'.sched.waiters = st.sched.waiters.map (stopIf fun _ => True))
      (len : st'.sched.sem.len = st.sched.sem.len)
  | quiet (silent : st.granted a = none) (waiters : st'.sched.waiters = st.sched.waiters)
      (len : st'.sched.sem.len = st.sched.sem.len)

theorem drain_len {s : Scheduler} (ok : Ok s) (order : List (String × List String)) :
    (s.drain order).sem.len = s.sem.len := by
  have inFlight : (s.drain order).inFlight = s.inFlight := by
    unfold Scheduler.drain
    induction order generalizing s with
    | nil => rfl
    | cons entry order ih =>
        rw [List.foldl_cons, ih (drainSubject_ok ok entry).1]
        unfold Scheduler.drainSubject
        split
        · rfl
        · dsimp only
          split_ifs <;> rfl
  rw [(drain_ok ok order).1.slots.len, ok.slots.len, inFlight]

theorem step_dispatched {st st' : System} {a : Action} (ok : Ok st.sched)
    (internal : a.isInternal = true) (step : st.step a = some st') : Dispatched st a st' := by
  have stepped := step_stepped ok step
  have silence : st.grantee a = none → st.granted a = none := by
    intro nobody
    have same := granted_isSome ok a
    rw [nobody] at same
    exact Option.isNone_iff_eq_none.mp (by simpa using same)
  generalize st.grantee a = chosen at stepped silence
  cases stepped with
  | enqueue | abandon | release => cases internal
  | paced _ _ granted hit =>
      obtain ⟨waiter, known, waiting, waiters, len⟩ := granted.slot ok
      exact .grant hit known waiting waiters len
  | unpaced _ granted hit =>
      obtain ⟨waiter, known, waiting, waiters, len⟩ := granted.slot ok
      exact .grant hit known waiting waiters len
  | drain order _ ranges =>
      exact .drain (silence rfl) (drain_waiters ok ranges) (drain_len ok order)
  | _ => exact .quiet (silence rfl) rfl rfl

end BrokerMcp.Proof.Scheduler
