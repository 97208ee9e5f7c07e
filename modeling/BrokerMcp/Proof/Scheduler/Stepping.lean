import BrokerMcp.Proof.Scheduler.Drain
import BrokerMcp.Resilience.Dispatcher

namespace BrokerMcp.Proof.Scheduler
open Resilience

theorem prune_credit (s : Scheduler) (key : CallerKey) (c : Bool) :
    { s with credit := c }.pruneSessionLocked key =
      { s.pruneSessionLocked key with credit := c } := by
  cases found : s.subjects.lookup key.subject with
  | none => simp [Scheduler.pruneSessionLocked, found]
  | some subj =>
      cases entry : subj.sessions.lookup key.session with
      | none => simp [Scheduler.pruneSessionLocked, found, entry]
      | some cs =>
          simp only [Scheduler.pruneSessionLocked, found, entry]
          split_ifs <;> rfl

theorem visitSubject_credit (s : Scheduler) (i : Nat) (k : String) (c : Bool) :
    { s with credit := c }.visitSubject i k =
      (s.visitSubject i k).map fun result => ({ result.1 with credit := c }, result.2) := by
  have dequeue (subj : SubjectState) : { s with credit := c }.dequeueLocked subj =
    s.dequeueLocked subj := rfl
  have eligible (subj : SubjectState) : { s with credit := c }.eligibleLocked k subj =
    s.eligibleLocked k subj := rfl
  have grant (subj : SubjectState) (w : Nat) (key : CallerKey) :
      { s with credit := c }.grantTo i k subj w key =
        { s.grantTo i k subj w key with credit := c } := by
    rw [Scheduler.grantTo, Scheduler.grantTo, ← prune_credit]
  cases found : s.subjects.lookup k with
  | none => simp [Scheduler.visitSubject, found]
  | some subj =>
      simp only [Scheduler.visitSubject, found, dequeue, eligible, grant, Option.bind_eq_bind,
        Option.bind_some]
      split_ifs
      · rfl
      · rfl
      · cases s.dequeueLocked subj with
        | none => rfl
        | some taken =>
            obtain ⟨w, subj'⟩ := taken
            cases known : s.waiters[w]? with
            | none => simp [known]
            | some waiter => simp [known]

theorem grantOneLocked_credit (s : Scheduler) (c : Bool) :
    { s with credit := c }.grantOneLocked =
      s.grantOneLocked.map fun result => ({ result.1 with credit := c }, result.2) := by
  simp only [Scheduler.grantOneLocked, Rotor.scan, List.map_findSome?]
  congr 1
  funext i
  cases position : s.rotor.atOffset i with
  | none => simp [position]
  | some k => simp [position, visitSubject_credit]

theorem Accounting.credit {idle : CallerKey → Prop} {s : Scheduler} (accounting : Accounting idle s)
    (c : Bool) : Accounting idle { s with credit := c } :=
  { accounting with }

def affords (st : System) : Prop :=
  st.dispatcher = .ticked ∨ st.dispatcher = .woken ∧ st.sched.credit = true

inductive Stepped (st : System) : Action → Option CallerKey → System → Prop where
  | enqueue (key : CallerKey) (unlocked : st.unlocked = true) :
      Stepped st (.enqueue key) none (st.after (st.sched.enqueue st.stopped key, !st.stopped))
  | abandon (w : Nat) (waiter : Waiter) (unlocked : st.unlocked = true)
      (known : st.sched.waiters[w]? = some waiter) :
      Stepped st (.abandon w) none (st.after (st.sched.abandon w waiter))
  | release (w : Nat) (waiter : Waiter) (unlocked : st.unlocked = true)
      (known : st.sched.waiters[w]? = some waiter) :
      Stepped st (.release w) none (st.after (st.sched.release w waiter))
  | signal (between : 0 < st.signalling) :
      Stepped st .signal none { st with wake := true, signalling := st.signalling - 1 }
  | stop : Stepped st .stop none { st with stopped := true }
  | tick (waiting : st.dispatcher = .waiting) (paced : st.sched.paced = true) :
      Stepped st .tick none { st with dispatcher := .ticked }
  | wakeUp (waiting : st.dispatcher = .waiting) (awake : st.wake = true) :
      Stepped st .wakeUp none { st with dispatcher := .woken, wake := false }
  | broke (paced : st.sched.paced = true) (woken : st.dispatcher = .woken)
      (spent : st.sched.credit = false) :
      Stepped st .pass none { st with dispatcher := .waiting }
  | passOver (paced : st.sched.paced = true) (affordable : affords st)
      (nobody : ∀ k, ¬ Grantable st.sched k) :
      Stepped st .pass none { st with
        sched := { st.sched with credit := true }
        dispatcher := .waiting }
  | paced (paced : st.sched.paced = true) (affordable : affords st) {w : Nat} {key : CallerKey}
      {s : Scheduler} (granted : Granted st.sched w key s) (hit : st.granted .pass = some w) :
      Stepped st .pass (some key) { st with
        sched := { s with credit := false }
        dispatcher := .waiting }
  | enter (credit : Bool) (unpaced : st.sched.paced = false)
      (before : st.dispatcher = .ticked ∨ st.dispatcher = .woken) :
      Stepped st .pass none { st with
        sched := { st.sched with credit }
        dispatcher := .granting }
  | exhausted (granting : st.dispatcher = .granting) (nobody : ∀ k, ¬ Grantable st.sched k) :
      Stepped st .grant none { st with dispatcher := .waiting }
  | unpaced (granting : st.dispatcher = .granting) {w : Nat} {key : CallerKey} {s : Scheduler}
      (granted : Granted st.sched w key s) (hit : st.granted .grant = some w) :
      Stepped st .grant (some key) { st with sched := s }
  | seeStopped (waiting : st.dispatcher = .waiting) (stopped : st.stopped = true) :
      Stepped st .seeStopped none { st with dispatcher := .draining }
  | drain (order : List (String × List String)) (draining : st.dispatcher = .draining)
      (ranges : st.sched.RangesOver order) :
      Stepped st (.drain order) none { st with
        sched := st.sched.drain order
        dispatcher := .exited }

theorem Granted.known {s s' : Scheduler} {w : Nat} {key : CallerKey}
    (granted : Granted s w key s') : s.waiters[w]?.map Waiter.key = some key := by
  cases granted with
  | mk _ _ _ _ _ _ _ _ _ known _ charged => simp [known, charged]

theorem dispatchLocked_paced {s : Scheduler} (paced : s.paced = true) :
    { s with credit := true }.dispatchLocked =
      match s.grantOneLocked with
      | none => { s with credit := true }
      | some (s', _) => { s' with credit := false } := by
  have pacing : ¬ (!s.paced) = true := by simp [paced]
  have held : ¬ (!{ s with credit := true }.credit) = true := Bool.false_ne_true
  rw [Scheduler.dispatchLocked, if_neg pacing, if_neg held, grantOneLocked_credit]
  cases s.grantOneLocked with
  | none => rfl
  | some result => rfl

theorem dispatch_stepped {st : System} (ok : Ok st.sched) (paced : st.sched.paced = true)
    (affordable : affords st) : Stepped st .pass (st.grantee .pass) { st with
      sched := { st.sched with credit := true }.dispatchLocked
      dispatcher := .waiting } := by
  have hit : st.granted .pass = st.sched.grantOneLocked.map Prod.snd := if_pos ⟨paced, affordable⟩
  cases grant : st.sched.grantOneLocked with
  | none =>
      have nobody := (grantOneLocked_eq_none ok).mp grant
      rw [dispatchLocked_paced paced, System.grantee, hit, grant]
      exact .passOver paced affordable nobody
  | some result =>
      obtain ⟨s, w⟩ := result
      obtain ⟨key, granted⟩ := grantOneLocked_eq_some ok grant
      have chosen : st.grantee .pass = some key := by simp [System.grantee, hit, grant, granted.known]
      rw [dispatchLocked_paced paced, grant, chosen]
      exact .paced paced affordable granted (by rw [hit, grant]; rfl)

theorem pass_stepped {st st' : System} (ok : Ok st.sched) (step : st.step .pass = some st') :
    Stepped st .pass (st.grantee .pass) st' := by
  simp only [System.step] at step
  split_ifs at step with ready ticked isPaced isPaced
  · obtain rfl := Option.some.inj step
    exact dispatch_stepped ok isPaced (.inl ticked)
  · obtain rfl := Option.some.inj step
    have silent : st.granted .pass = none := if_neg fun h => isPaced h.1
    rw [System.grantee, silent]
    exact .enter true (by simpa using isPaced) ready.2
  · obtain rfl := Option.some.inj step
    have woken : st.dispatcher = .woken := ready.2.resolve_left ticked
    cases credit : st.sched.credit with
    | true =>
        have same : { st.sched with credit := true } = st.sched := by rw [← credit]
        have result := dispatch_stepped ok isPaced (.inr ⟨woken, credit⟩)
        rwa [same] at result
    | false =>
        have silent : st.granted .pass = none := if_neg fun h => by simp [woken, credit] at h
        have idle : st.sched.dispatchLocked = st.sched := by
          simp [Scheduler.dispatchLocked, isPaced, credit]
        rw [idle, System.grantee, silent]
        exact .broke isPaced woken credit
  · obtain rfl := Option.some.inj step
    have silent : st.granted .pass = none := if_neg fun h => isPaced h.1
    rw [System.grantee, silent]
    exact .enter st.sched.credit (by simpa using isPaced) ready.2

theorem grant_stepped {st st' : System} (ok : Ok st.sched) (step : st.step .grant = some st') :
    Stepped st .grant (st.grantee .grant) st' := by
  simp only [System.step] at step
  split_ifs at step with ready
  have hit : st.granted .grant = st.sched.grantOneLocked.map Prod.snd := rfl
  cases grant : st.sched.grantOneLocked with
  | none =>
      rw [grant] at step
      obtain rfl := Option.some.inj step
      simp only [System.grantee, hit, grant]
      exact .exhausted ready.1 ((grantOneLocked_eq_none ok).mp grant)
  | some result =>
      obtain ⟨s, w⟩ := result
      rw [grant] at step
      obtain rfl := Option.some.inj step
      obtain ⟨key, granted⟩ := grantOneLocked_eq_some ok grant
      have chosen : st.grantee .grant = some key := by simp [System.grantee, hit, grant, granted.known]
      rw [chosen]
      exact .unpaced ready.1 granted (by rw [hit, grant]; rfl)

theorem step_stepped {st st' : System} {a : Action} (ok : Ok st.sched)
    (step : st.step a = some st') : Stepped st a (st.grantee a) st' := by
  cases a with
  | pass => exact pass_stepped ok step
  | grant => exact grant_stepped ok step
  | enqueue key =>
      simp only [System.step] at step
      split_ifs at step with unlocked
      exact Option.some.inj step ▸ .enqueue key unlocked
  | abandon w =>
      simp only [System.step] at step
      split_ifs at step with unlocked
      obtain ⟨waiter, known, rfl⟩ := Option.map_eq_some_iff.mp step
      exact .abandon w waiter unlocked known
  | release w =>
      simp only [System.step] at step
      split_ifs at step with unlocked
      obtain ⟨waiter, known, rfl⟩ := Option.map_eq_some_iff.mp step
      exact .release w waiter unlocked known
  | signal =>
      simp only [System.step] at step
      split_ifs at step with between
      exact Option.some.inj step ▸ .signal between
  | stop => exact Option.some.inj step ▸ .stop
  | tick =>
      simp only [System.step] at step
      split_ifs at step with ready
      exact Option.some.inj step ▸ .tick ready.1 ready.2
  | wakeUp =>
      simp only [System.step] at step
      split_ifs at step with ready
      exact Option.some.inj step ▸ .wakeUp ready.1 ready.2
  | seeStopped =>
      simp only [System.step] at step
      split_ifs at step with ready
      exact Option.some.inj step ▸ .seeStopped ready.1 ready.2
  | drain order =>
      simp only [System.step] at step
      split_ifs at step with ready
      exact Option.some.inj step ▸ .drain order ready.2.1 ready.2.2

theorem granted_of_granted {st : System} {a : Action} {w : Nat} (ok : Ok st.sched)
    (hit : st.granted a = some w) : ∃ key s, Granted st.sched w key s := by
  have chosen : st.sched.grantOneLocked.map Prod.snd = some w := by
    cases a with
    | grant => exact hit
    | pass =>
        unfold System.granted at hit
        split_ifs at hit
        exact hit
    | _ => cases hit
  obtain ⟨⟨s, _⟩, grant, rfl⟩ := Option.map_eq_some_iff.mp chosen
  obtain ⟨key, granted⟩ := grantOneLocked_eq_some ok grant
  exact ⟨key, s, granted⟩

theorem granted_isSome {st : System} (ok : Ok st.sched) (a : Action) :
    (st.granted a).isSome = (st.grantee a).isSome := by
  unfold System.grantee
  cases hit : st.granted a with
  | none => rfl
  | some w =>
      obtain ⟨key, s, granted⟩ := granted_of_granted ok hit
      rw [Option.bind_some, granted.known]
      rfl

theorem Stepped.ok {st st' : System} {a : Action} {chosen : Option CallerKey} (ok : Ok st.sched)
    (stepped : Stepped st a chosen st') : Ok st'.sched := by
  cases stepped with
  | enqueue key _ => exact enqueue_ok ok st.stopped key
  | abandon w waiter _ known => exact abandon_ok ok known
  | release w waiter _ known => exact release_ok ok known
  | passOver => exact ok.credit true
  | paced _ _ granted => exact (granted.ok ok).credit false
  | enter credit => exact ok.credit credit
  | unpaced _ granted => exact granted.ok ok
  | drain order => exact (drain_ok ok order).1
  | _ => exact ok

end BrokerMcp.Proof.Scheduler
