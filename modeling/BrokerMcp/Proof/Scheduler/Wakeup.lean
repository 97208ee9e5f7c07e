import BrokerMcp.Proof.Scheduler.Eligibility
import BrokerMcp.Proof.Scheduler.Invariant

namespace BrokerMcp.Proof.Scheduler
open Resilience Transition

structure SameRoom (s s' : Scheduler) : Prop where
  limit : s'.limit = s.limit
  inFlight : s'.inFlight = s.inFlight
  size : s'.subjects.size = s.subjects.size

theorem SameRoom.ceiling {s s' : Scheduler} (same : SameRoom s s') :
    s'.subjectCeilingLocked = s.subjectCeilingLocked :=
  subjectCeiling_congr same.limit same.size

theorem sessionCeiling_congr {s s' : Scheduler} {subj subj' : SubjectState}
    (ceiling : s'.subjectCeilingLocked = s.subjectCeilingLocked)
    (size : subj'.sessions.size = subj.sessions.size) :
    sessionCeiling s' subj' = sessionCeiling s subj := by
  simp only [sessionCeiling, ceiling, size]

section Unqueued

variable {s s' : Scheduler} {key : CallerKey} {subj subj' : SubjectState} {cs cs' : SessionState}
  {w : Nat} (ok : Ok s) (nobody : ∀ k, ¬ Grantable s k)
include ok nobody

theorem eligible_of_same_room {k : String} (same : SameRoom s s')
    (held : subj'.inFlight = subj.inFlight) (eligible : s'.eligibleLocked k subj' = true) :
    s.eligibleLocked k subj = true := by
  obtain ⟨room, below, -⟩ := eligible_iff.mp eligible
  rw [same.limit, same.inFlight] at room
  rw [held, same.ceiling] at below
  exact (eligible_of_nobody_starved (nobody_starved ok room nobody)).mpr ⟨room, below⟩

theorem refused_of_same_room {k m : String} (same : SameRoom s s')
    (eligible : s'.eligibleLocked k subj' = true)
    (sessionEligible : s'.sessionEligibleLocked subj' m cs' = true)
    (found : s.subjects.lookup k = some subj) (held : subj'.inFlight = subj.inFlight)
    (sessions : subj'.sessions.size = subj.sessions.size)
    (entry : subj.sessions.lookup m = some cs) (queued : cs.queue ≠ [])
    (heldSession : cs'.inFlight = cs.inFlight) : False := by
  have able := eligible_of_same_room ok nobody same held eligible
  have noSession : ∀ j, ¬ StarvedSession subj j := by
    intro j starved
    exact nobody k ⟨subj, found, able, j, servable_of_starved starved⟩
  apply nobody k
  refine ⟨subj, found, able, m, cs, entry, queued, ?_⟩
  apply (sessionEligible_of_nobody_starved noSession).mpr
  rw [← heldSession, ← sessionCeiling_congr same.ceiling sessions]
  exact (sessionEligible_iff.mp sessionEligible).1

theorem unqueued_nobody (found : s.subjects.lookup key.subject = some subj)
    (entry : subj.sessions.lookup key.session = some cs) :
    ∀ k, ¬ Grantable (unqueued s w key subj cs) k := by
  rintro k ⟨subj', found', eligible, m, cs', entry', queued, sessionEligible⟩
  have same : SameRoom s (unqueued s w key subj cs) :=
    ⟨rfl, rfl, AList.size_insert_of_lookup found _⟩
  have sessions : (unqueuedSubject w key.session subj cs).sessions.size = subj.sessions.size :=
    AList.size_insert_of_lookup entry _
  simp only [unqueued, AList.lookup_insert_eq] at found'
  split_ifs at found' with here
  · obtain rfl := Option.some.inj found'
    subst here
    simp only [unqueuedSubject, AList.lookup_insert_eq] at entry'
    split_ifs at entry' with own
    · obtain rfl := Option.some.inj entry'
      subst own
      have waiting : cs.queue ≠ [] := fun none => queued (by simp [none])
      exact refused_of_same_room ok nobody same eligible sessionEligible found rfl sessions entry
        waiting rfl
    · exact refused_of_same_room ok nobody same eligible sessionEligible found rfl sessions entry'
        queued rfl
  · exact refused_of_same_room ok nobody same eligible sessionEligible found' rfl rfl entry' queued
      rfl

/-- A session about to be pruned was starved: if its subject was refused nevertheless, it holds its
ceiling, and the ceiling of a subject does not depend on its sessions. -/
theorem pruned_nobody (found : s.subjects.lookup key.subject = some subj)
    (entry : subj.sessions.lookup key.session = some cs)
    (idle : SessionState.active { cs with queue := cs.queue.erase w } = false) :
    ∀ k, ¬ Grantable ((unqueued s w key subj cs).pruneSessionLocked key) k := by
  obtain ⟨-, none⟩ : cs.queue.erase w = [] ∧ cs.inFlight = 0 := by
    simpa [SessionState.active] using idle
  have waiting : cs.queue ≠ [] := by
    have active := ok.busy _ _ found _ _ entry id
    simpa [SessionState.active, none] using active
  have refused : s.eligibleLocked key.subject subj ≠ true := by
    intro able
    have starved : StarvedSession subj key.session := ⟨cs, entry, waiting, none⟩
    exact nobody key.subject ⟨subj, found, able, key.session, servable_of_starved starved⟩
  have found' : (unqueued s w key subj cs).subjects.lookup key.subject =
      some (unqueuedSubject w key.session subj cs) := AList.lookup_insert _
  have entry' : (unqueuedSubject w key.session subj cs).sessions.lookup key.session =
      some { cs with queue := cs.queue.erase w } := AList.lookup_insert _
  rintro k ⟨subj', foundK, eligible, m, cs', entryM, queued, sessionEligible⟩
  cases occupied : (pruned (unqueuedSubject w key.session subj cs) key.session).active with
  | true =>
      rw [prune_session found' entry' idle occupied] at foundK eligible sessionEligible
      have same : SameRoom s { unqueued s w key subj cs with
          subjects := (unqueued s w key subj cs).subjects.insert key.subject
            (pruned (unqueuedSubject w key.session subj cs) key.session) } := by
        refine ⟨rfl, rfl, (AList.size_insert_of_lookup found' _).trans ?_⟩
        exact AList.size_insert_of_lookup found _
      simp only [unqueued, AList.lookup_insert_eq] at foundK
      split_ifs at foundK with here
      · obtain rfl := Option.some.inj foundK
        subst here
        exact refused (eligible_of_same_room ok nobody same rfl eligible)
      · exact refused_of_same_room ok nobody same eligible sessionEligible foundK rfl rfl entryM
          queued rfl
  | false =>
      rw [prune_subject found' entry' idle occupied] at eligible
      have empty := sessions_empty occupied
      simp only [pruned, unqueuedSubject, AList.erase_insert] at empty
      have total : subj.inFlight = 0 := by
        rw [(ok.inner _ _ found).total, AList.total_erase entry, empty, none]
        rfl
      have starved : Starved s key.subject :=
        ⟨subj, found, AList.any_iff.mpr ⟨_, cs, entry, by simpa using waiting⟩, total⟩
      exact nobody _ (grantable_of_starved ok (eligible_iff.mp eligible).1 starved)

theorem removeFromQueueLocked_nobody : ∀ k, ¬ Grantable
    ({ s with waiters := s.waiters.modify w Waiter.resolve }.removeFromQueueLocked w key) k := by
  cases found : s.subjects.lookup key.subject with
  | none =>
      simp only [Scheduler.removeFromQueueLocked, found]
      exact nobody
  | some subj =>
      cases entry : subj.sessions.lookup key.session with
      | none =>
          simp only [Scheduler.removeFromQueueLocked, found, entry]
          exact nobody
      | some cs =>
          rw [removeFromQueueLocked_eq found entry]
          cases idle : SessionState.active { cs with queue := cs.queue.erase w } with
          | false => exact pruned_nobody ok nobody found entry idle
          | true =>
              have kept : (unqueued s w key subj cs).pruneSessionLocked key =
                  unqueued s w key subj cs := by
                simp [Scheduler.pruneSessionLocked, unqueued, unqueuedSubject, idle]
              rw [kept]
              exact unqueued_nobody ok nobody found entry

end Unqueued

theorem Granted.inFlight {s s' : Scheduler} {w : Nat} {key : CallerKey}
    (granted : Granted s w key s') : s'.inFlight = s.inFlight + 1 := by
  cases granted with
  | mk => rfl

theorem nobody_of_full {s : Scheduler} (full : s.limit ≤ s.inFlight) (k : String) :
    ¬ Grantable s k := by
  rintro ⟨subj, -, eligible, -⟩
  exact absurd (eligible_iff.mp eligible).1 (Nat.not_lt.mpr full)

/-- The steps of the dispatcher inside `dispatchLocked` are the iterations of its loop, and the loop
ends when there is nothing left to grant. -/
theorem grantAllLocked_run {fuel : Nat} {st : System} (ok : Ok st.sched)
    (granting : st.dispatcher = .granting) (enough : st.sched.limit - st.sched.inFlight ≤ fuel) :
    (Scheduler.grantAllLocked fuel st.sched).grantOneLocked = none ∧
      ∃ history, (∀ p ∈ history, p.2 = Action.grant) ∧ Run System.step st history { st with
        sched := Scheduler.grantAllLocked fuel st.sched
        dispatcher := .waiting } := by
  induction fuel generalizing st with
  | zero =>
      have none := (grantOneLocked_eq_none ok).mpr (nobody_of_full (by omega))
      refine ⟨none, [(st, .grant)], by simp, Run.single ?_⟩
      simp [System.step, granting, ok.slots.free, none, Scheduler.grantAllLocked]
  | succ fuel ih =>
      cases grant : st.sched.grantOneLocked with
      | none =>
          have same : Scheduler.grantAllLocked (fuel + 1) st.sched = st.sched := by
            simp [Scheduler.grantAllLocked, grant]
          rw [same]
          refine ⟨grant, [(st, .grant)], by simp, Run.single ?_⟩
          simp [System.step, granting, ok.slots.free, grant]
      | some result =>
          obtain ⟨s, w⟩ := result
          obtain ⟨key, granted⟩ := grantOneLocked_eq_some ok grant
          have same : Scheduler.grantAllLocked (fuel + 1) st.sched =
              Scheduler.grantAllLocked fuel s := by
            simp [Scheduler.grantAllLocked, grant]
          have less : s.limit - s.inFlight ≤ fuel := by
            rw [granted.kept.limit, granted.inFlight]
            omega
          have step : st.step .grant = some { st with sched := s } := by
            simp [System.step, granting, ok.slots.free, grant]
          obtain ⟨done, history, only, run⟩ :=
            @ih { st with sched := s } (granted.ok ok) granting less
          rw [same]
          refine ⟨done, (st, .grant) :: history, ?_, .cons step run⟩
          rintro p (_ | ⟨_, member⟩)
          · rfl
          · exact only p member

structure Idle (st : System) : Prop where
  asleep : st.wake = false
  silent : st.signalling = 0
  waiting : st.dispatcher = .waiting
  affordable : st.sched.paced = false ∨ st.sched.credit = true

def Unneeded (st : System) : Prop :=
  Idle st → ∀ k, ¬ Grantable st.sched k

theorem enqueue_unneeded {st : System} {key : CallerKey} (unneeded : Unneeded st) :
    Unneeded (st.after (st.sched.enqueue st.stopped key, !st.stopped)) := by
  intro idle
  cases running : st.stopped with
  | false =>
      have silent := idle.silent
      simp [System.after, running] at silent
  | true =>
      -- a scheduler that is stopped turns the caller away and queues nobody
      rw [running] at idle
      exact unneeded ⟨idle.asleep, idle.silent, idle.waiting, idle.affordable⟩

theorem abandon_unneeded {st : System} {w : Nat} {waiter : Waiter} (ok : Ok st.sched)
    (unneeded : Unneeded st) : Unneeded (st.after (st.sched.abandon w waiter)) := by
  unfold Scheduler.abandon
  split_ifs with settled granted
  · exact unneeded
  · intro idle
    exact absurd idle.silent (by simp [System.after])
  · rintro ⟨asleep, silent, waiting, affordable⟩
    have kept := removeFromQueueLocked_kept
      { st.sched with waiters := st.sched.waiters.modify w Waiter.resolve } w waiter.key
    simp only [System.after, kept.paced, kept.credit] at affordable
    exact removeFromQueueLocked_nobody ok (unneeded ⟨asleep, silent, waiting, affordable⟩)

theorem release_unneeded {st : System} {w : Nat} {waiter : Waiter} (unneeded : Unneeded st) :
    Unneeded (st.after (st.sched.release w waiter)) := by
  unfold Scheduler.release
  split_ifs with settled
  · exact unneeded
  · intro idle
    exact absurd idle.silent (by simp [System.after])

theorem Stepped.unneeded {st st' : System} {a : Action} {chosen : Option CallerKey}
    (ok : Ok st.sched) (unneeded : Unneeded st) (stepped : Stepped st a chosen st') :
    Unneeded st' := by
  cases stepped with
  | enqueue key _ => exact enqueue_unneeded unneeded
  | abandon w waiter _ known => exact abandon_unneeded ok unneeded
  | release w waiter _ known => exact release_unneeded unneeded
  | passOver _ _ nobody => exact fun _ => nobody
  | exhausted _ nobody => exact fun _ => nobody
  | signal => exact fun idle => nomatch idle.asleep
  | stop => exact fun idle => unneeded ⟨idle.asleep, idle.silent, idle.waiting, idle.affordable⟩
  | broke paced _ spent =>
      intro idle
      rcases idle.affordable with unpaced | credit
      · cases paced.symm.trans unpaced
      · cases credit.symm.trans spent
  | paced paced _ granted =>
      intro idle
      rcases idle.affordable with unpaced | credit
      · cases unpaced.symm.trans (granted.kept.paced.trans paced)
      · cases credit
  | unpaced granting => exact fun idle => absurd (granting.symm.trans idle.waiting) nofun
  | tick | wakeUp | enter | seeStopped | drain => exact fun idle => nomatch idle.waiting

theorem reachable_unneeded {cap : Nat} {enabled : Bool} {limit : Int} {st : System}
    {history : List (System × Action)} (positive : 1 ≤ cap)
    (run : Run System.step (.start ⟨cap, 0, false⟩ enabled limit) history st) :
    Ok st.sched ∧ Unneeded st := by
  let Inv (st : System) : Prop := Ok st.sched ∧ Unneeded st
  have start : Inv (.start ⟨cap, 0, false⟩ enabled limit) := by
    refine ⟨newScheduler_ok cap positive enabled limit, fun _ k grantable => ?_⟩
    obtain ⟨subj, found, -⟩ := grantable
    cases found
  have preserved (s : System) (a : Action) (t : System) (inv : Inv s)
      (step : s.step a = some t) : Inv t :=
    ⟨step_ok inv.1 step, (step_stepped inv.1 step).unneeded inv.1 inv.2⟩
  exact (run.invariant start preserved).1

def held (st : System) : Nat :=
  if st.dispatcher = .ticked then 1 else st.sched.credit.toNat

structure Paced (st : System) : Prop where
  ok : Ok st.sched
  paced : st.sched.paced = true
  outside : st.dispatcher ≠ .granting

theorem credit_le_held (st : System) : st.sched.credit.toNat ≤ held st := by
  unfold held
  split_ifs
  · exact Bool.toNat_le _
  · exact Nat.le_refl _

theorem held_le_one (st : System) : held st ≤ 1 := by
  unfold held
  split_ifs
  · exact Nat.le_refl _
  · exact Bool.toNat_le _

theorem held_of_affords {st : System} (affordable : affords st) : held st = 1 := by
  rcases affordable with ticked | ⟨woken, credit⟩
  · exact if_pos ticked
  · simp [held, woken, credit]

theorem Stepped.paced_paced {st st' : System} {a : Action} {chosen : Option CallerKey}
    (paced : Paced st) (stepped : Stepped st a chosen st') : Paced st' := by
  refine ⟨stepped.ok paced.ok, stepped.limits.paced.trans paced.paced, ?_⟩
  cases stepped with
  | enter _ unpaced => cases paced.paced.symm.trans unpaced
  | unpaced granting => exact absurd granting paced.outside
  | tick | wakeUp | broke | passOver | paced | exhausted | seeStopped | drain => exact nofun
  | _ => exact paced.outside

theorem Paced.step {st st' : System} {a : Action} (paced : Paced st)
    (step : st.step a = some st') : Paced st' :=
  (step_stepped paced.ok step).paced_paced paced

theorem Stepped.pays {st st' : System} {a : Action} {chosen : Option CallerKey} (paced : Paced st)
    (stepped : Stepped st a chosen st') :
    chosen.isSome.toNat + held st' ≤ held st + a.isTick.toNat := by
  cases stepped with
  | enqueue key _ => simp [held, System.after, (enqueue_kept st.sched st.stopped key).credit]
  | abandon w waiter => simp [held, System.after, (abandon_kept st.sched w waiter).credit]
  | release w waiter => simp [held, System.after, (release_kept st.sched w waiter).credit]
  | signal => simp [held]
  | stop => simp [held]
  | tick waiting => simp [held, Action.isTick]
  | wakeUp waiting => simp [held, waiting]
  | broke _ woken spent => simp [held, woken, spent]
  | passOver _ affordable =>
      rw [held_of_affords affordable]
      simp [held]
  | paced _ affordable granted =>
      rw [held_of_affords affordable]
      simp [held]
  | enter _ unpaced => cases paced.paced.symm.trans unpaced
  | exhausted granting => exact absurd granting paced.outside
  | unpaced granting => exact absurd granting paced.outside
  | seeStopped waiting => simp [held, waiting]
  | drain order draining => simp [held, draining, (drain_kept st.sched order).credit]

def grants (history : List (System × Action)) : Nat :=
  history.countP fun p => (p.1.granted p.2).isSome

def ticks (history : List (System × Action)) : Nat :=
  history.countP fun p => p.2.isTick

theorem grants_le_ticks {st st' : System} {history : List (System × Action)} (paced : Paced st)
    (run : Run System.step st history st') : grants history + held st' ≤ held st + ticks history := by
  refine run.potential paced (fun _ _ _ => Paced.step) ?_
  intro s a t here step
  rw [granted_isSome here.ok]
  exact (step_stepped here.ok step).pays here

theorem start_paced {cap : Nat} (positive : 1 ≤ cap) (limit : Int) :
    Paced (.start ⟨cap, 0, false⟩ true limit) :=
  ⟨newScheduler_ok cap positive true limit, rfl, nofun⟩

theorem window_budget {st st' : System} {history : List (System × Action)} (paced : Paced st)
    (run : Run System.step st history st') {before window after : List (System × Action)}
    (split : history = before ++ (window ++ after)) : grants window ≤ ticks window + 1 := by
  subst split
  obtain ⟨opening, first, rest⟩ := run.split
  obtain ⟨closing, second, -⟩ := rest.split
  have paced' := (first.invariant paced fun _ _ _ => Paced.step).1
  have bound := grants_le_ticks paced' second
  have carried := held_le_one opening
  omega

theorem dispatch_budget (cap : Nat) (enabled : Bool) (limit : Int) (positive : 1 ≤ cap)
    {st : System} {history : List (System × Action)}
    (run : Run System.step (.start ⟨cap, 0, false⟩ enabled limit) history st) :
    (enabled = true →
      grants history + st.sched.credit.toNat ≤ ticks history ∧
      ∀ before window after, history = before ++ (window ++ after) →
        grants window ≤ ticks window + 1) ∧
    (st.stopped = false → st.wake = false → st.signalling = 0 → st.dispatcher = .waiting →
      st.sched.paced = false ∨ st.sched.credit = true → st.sched.grantOneLocked = none) := by
  constructor
  · rintro rfl
    have paced := start_paced positive limit
    constructor
    · have bound := grants_le_ticks paced run
      have start : held (.start ⟨cap, 0, false⟩ true limit) = 0 := rfl
      have credit := credit_le_held st
      omega
    · exact fun before window after => window_budget paced run
  · intro _ asleep silent waiting affordable
    obtain ⟨ok, unneeded⟩ := reachable_unneeded positive run
    exact (grantOneLocked_eq_none ok).mpr (unneeded ⟨asleep, silent, waiting, affordable⟩)

-- A slot and a credit are free and a waiter of `a` is queued, but `a` holds its ceiling; the other
-- session of `a` has just given up.
theorem dispatch_budget_after_abandon : ∃ st history,
    Run System.step (.start ⟨4, 0, false⟩ true 4) history st ∧
      grants history + st.sched.credit.toNat ≤ ticks history ∧
      st.sched.credit = true ∧ st.sched.inFlight = 3 ∧ st.sched.limit = 4 ∧
      (st.sched.session ⟨"a", "x"⟩).queue = [2] ∧ st.sched.grantOneLocked = none := by
  obtain ⟨st, done, credit, inFlight, limit, queue, stopped, wake, signalling, dispatcher⟩ :
      ∃ st, exec System.step (.start ⟨4, 0, false⟩ true 4)
        [.enqueue ⟨"a", "x"⟩, .signal, .enqueue ⟨"a", "x"⟩, .signal, .enqueue ⟨"a", "x"⟩, .signal,
          .enqueue ⟨"b", "x"⟩, .signal, .tick, .pass, .tick, .pass, .tick, .pass, .tick, .pass,
          .enqueue ⟨"a", "y"⟩, .signal, .wakeUp, .pass, .abandon 4] = some st ∧
        st.sched.credit = true ∧ st.sched.inFlight = 3 ∧ st.sched.limit = 4 ∧
        (st.sched.session ⟨"a", "x"⟩).queue = [2] ∧
        st.stopped = false ∧ st.wake = false ∧ st.signalling = 0 ∧ st.dispatcher = .waiting :=
    ⟨_, rfl, rfl, rfl, rfl, rfl, rfl, rfl, rfl, rfl⟩
  have run := run_of_exec done
  obtain ⟨budget, conserving⟩ := dispatch_budget 4 true 4 (by decide) run
  exact ⟨st, _, run, (budget rfl).1, credit, inFlight, limit, queue,
    conserving stopped wake signalling dispatcher (.inr credit)⟩

end BrokerMcp.Proof.Scheduler
