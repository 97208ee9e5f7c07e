import BrokerMcp.Proof.Scheduler.Stopping
import BrokerMcp.Proof.Scheduler.Wakeup
import BrokerMcp.Resilience.Sender

namespace BrokerMcp.Proof.Scheduler
open Resilience Transition

section Refusal

variable {s s' : Scheduler} {k m : String} {subj subj' : SubjectState} {cs cs' : SessionState}

theorem ineligible_iff : s.eligibleLocked k subj = false ↔
    s.limit ≤ s.inFlight ∨ s.subjectCeilingLocked ≤ subj.inFlight ∨
      (1 < s.limit ∧ s.limit - s.inFlight = 1 ∧ 0 < subj.inFlight ∧
        s.hasStarvedSubjectLocked k = true) := by
  rw [Bool.eq_false_iff, ne_eq, eligible_iff, not_and_or, not_and_or, not_not, not_lt, not_lt]

theorem sessionIneligible_iff : s.sessionEligibleLocked subj m cs = false ↔
    sessionCeiling s subj ≤ cs.inFlight ∨
      (1 < s.subjectCeilingLocked ∧ s.subjectCeilingLocked - subj.inFlight = 1 ∧
        0 < cs.inFlight ∧ subj.hasStarvedSession m = true) := by
  rw [Bool.eq_false_iff, ne_eq, sessionEligible_iff, not_and_or, not_not, not_lt]

structure Fuller (s s' : Scheduler) : Prop where
  room : s.inFlight < s.limit
  limit : s'.limit = s.limit
  ceiling : s'.subjectCeilingLocked = s.subjectCeilingLocked
  inFlight : s'.inFlight = s.inFlight + 1

theorem ineligible_of_fuller (fuller : Fuller s s') (more : subj.inFlight ≤ subj'.inFlight)
    (refused : s.eligibleLocked k subj = false) : s'.eligibleLocked k subj' = false := by
  obtain ⟨room, limit, ceiling, inFlight⟩ := fuller
  rw [ineligible_iff] at refused ⊢
  rcases refused with full | above | ⟨-, last, -, -⟩
  · exact absurd full (by omega)
  · exact .inr (.inl (by omega))
  · exact .inl (by omega)

theorem sessionIneligible_of_fuller (fuller : Fuller s s')
    (size : subj'.sessions.size = subj.sessions.size) (used : subj'.inFlight = subj.inFlight + 1)
    (more : cs.inFlight ≤ cs'.inFlight) (refused : s.sessionEligibleLocked subj m cs = false) :
    s'.eligibleLocked k subj' = false ∨ s'.sessionEligibleLocked subj' m cs' = false := by
  obtain ⟨room, limit, ceiling, inFlight⟩ := fuller
  rw [sessionIneligible_iff] at refused
  rcases refused with above | ⟨-, last, -, -⟩
  · refine .inr (sessionIneligible_iff.mpr (.inl ?_))
    rw [sessionCeiling_congr ceiling size]
    omega
  · exact .inl (ineligible_iff.mpr (.inr (.inl (by omega))))

end Refusal

def Barred (s : Scheduler) (key : CallerKey) : Prop :=
  ∃ subj cs, s.subjects.lookup key.subject = some subj ∧
    subj.sessions.lookup key.session = some cs ∧
    (s.eligibleLocked key.subject subj = false ∨
      s.sessionEligibleLocked subj key.session cs = false)

theorem queued_entry {s : Scheduler} {key : CallerKey} {w : Nat}
    (queued : w ∈ (s.session key).queue) :
    ∃ subj cs, s.subjects.lookup key.subject = some subj ∧
      subj.sessions.lookup key.session = some cs ∧ w ∈ cs.queue := by
  cases found : s.subjects.lookup key.subject with
  | none =>
      rw [session_of_no_subject found] at queued
      cases queued
  | some subj =>
      cases entry : subj.sessions.lookup key.session with
      | none =>
          rw [session_of_no_session found entry] at queued
          cases queued
      | some cs =>
          rw [session_of_lookup found entry] at queued
          exact ⟨subj, cs, rfl, entry, queued⟩

section Stage

variable {s : Scheduler} {w : Nat} {waiter : Waiter}
  (queued : w ∈ (s.session waiter.key).queue)
include queued

theorem barred_of_concurrency (stage : s.stage waiter = .concurrency) : Barred s waiter.key := by
  obtain ⟨subj, cs, found, entry, -⟩ := queued_entry queued
  refine ⟨subj, cs, found, entry, ?_⟩
  by_contra free
  rw [not_or, Bool.not_eq_false, Bool.not_eq_false] at free
  simp [Scheduler.stage, found, entry, free.1, free.2] at stage

theorem grantable_of_rateLimit (stage : s.stage waiter = .rateLimit) :
    Grantable s waiter.key.subject := by
  obtain ⟨subj, cs, found, entry, member⟩ := queued_entry queued
  cases eligible : s.eligibleLocked waiter.key.subject subj with
  | false => simp [Scheduler.stage, found, eligible] at stage
  | true =>
      cases served : s.sessionEligibleLocked subj waiter.key.session cs with
      | false => simp [Scheduler.stage, found, entry, eligible, served] at stage
      | true =>
          exact ⟨subj, found, eligible, waiter.key.session, cs, entry, List.ne_nil_of_mem member,
            served⟩

end Stage

theorem Granted.fuller {s s' : Scheduler} {w : Nat} {key : CallerKey}
    (granted : Granted s w key s') : Fuller s s' := by
  cases granted with
  | mk _ _ found eligible =>
      refine ⟨eligible_room eligible, rfl, ?_, rfl⟩
      exact subjectCeiling_congr rfl (AList.size_insert_of_lookup found _)

theorem Granted.not_barred {s s' : Scheduler} {w : Nat} {key : CallerKey}
    (granted : Granted s w key s') : ¬ Barred s key := by
  rintro ⟨subj, cs, found, entry, refused⟩
  cases granted with
  | mk _ _ found' eligible _ _ entry' _ sessionEligible =>
      obtain rfl := Option.some.inj (found.symm.trans found')
      obtain rfl := Option.some.inj (entry.symm.trans entry')
      rcases refused with refused | refused
      · cases refused.symm.trans eligible
      · cases refused.symm.trans sessionEligible

theorem Granted.barred {s s' : Scheduler} {w : Nat} {key other : CallerKey}
    (granted : Granted s w other s') (barred : Barred s key) : Barred s' key := by
  have fuller := granted.fuller
  obtain ⟨subj, cs, found, entry, refused⟩ := barred
  cases granted with
  | @mk chosen session rest _ _ _ _ _ _ _ found' _ _ _ entry' =>
      by_cases subject : key.subject = other.subject
      · rw [subject] at found
        obtain rfl := Option.some.inj (found.symm.trans found')
        have size := AList.size_insert_of_lookup entry' ⟨rest, session.inFlight + 1⟩
        -- the session is the one that was granted a slot, or it is as it was
        obtain ⟨cs', here, more⟩ : ∃ cs', (subj.sessions.insert other.session
            ⟨rest, session.inFlight + 1⟩).lookup key.session = some cs' ∧
            cs.inFlight ≤ cs'.inFlight := by
          rw [AList.lookup_insert_eq]
          split_ifs with same
          · rw [same] at entry
            obtain rfl := Option.some.inj (entry.symm.trans entry')
            exact ⟨_, rfl, Nat.le_succ _⟩
          · exact ⟨cs, entry, le_rfl⟩
        refine ⟨_, cs', by rw [subject]; exact AList.lookup_insert _, here, ?_⟩
        rcases refused with refused | refused
        · exact .inl (ineligible_of_fuller fuller (Nat.le_succ _) refused)
        · exact sessionIneligible_of_fuller fuller size rfl more refused
      · refine ⟨subj, cs, ?_, entry, ?_⟩
        · rw [AList.lookup_insert_eq, if_neg subject]
          exact found
        · rcases refused with refused | refused
          · exact .inl (ineligible_of_fuller fuller le_rfl refused)
          · refine .inr (sessionIneligible_iff.mpr ?_)
            rw [sessionCeiling_congr fuller.ceiling rfl, fuller.ceiling]
            exact sessionIneligible_iff.mp refused

def byCaller : Action → Bool
  | .enqueue _ | .abandon _ | .release _ | .stop => true
  | _ => false

def Leaving (st : System) : Prop := st.dispatcher = .draining ∨ st.dispatcher = .exited

structure HeldUp (w : Nat) (key : CallerKey) (st : System) : Prop where
  entry : ∃ waiter, st.sched.waiters[w]? = some waiter ∧ waiter.key = key ∧ waiter.granted = false
  barred : Leaving st ∨ Barred st.sched key

theorem Granted.heldUp {st : System} {s : Scheduler} {w v : Nat} {key other : CallerKey}
    (granted : Granted st.sched v other s) (heldUp : HeldUp w key st) (busy : ¬ Leaving st)
    {st' : System} (same : st'.sched = { s with credit := st'.sched.credit }) :
    HeldUp w key st' := by
  have barred := heldUp.barred.resolve_left busy
  obtain ⟨waiter, here, charged, without⟩ := heldUp.entry
  have apart : v ≠ w := by
    rintro rfl
    have known := granted.known
    rw [here, Option.map_some, Option.some.injEq, charged] at known
    subst known
    exact granted.not_barred barred
  refine ⟨⟨waiter, ?_, charged, without⟩, .inr ?_⟩
  · rw [same]
    cases granted with
    | mk => simp [apart, here]
  · rw [same]
    exact granted.barred barred

theorem affords.busy {st : System} (affordable : affords st) : ¬ Leaving st := by
  rcases affordable with ticked | ⟨woken, -⟩
  · simp [Leaving, ticked]
  · simp [Leaving, woken]

theorem drain_entry {s : Scheduler} (ok : Ok s) {order : List (String × List String)}
    (ranges : s.RangesOver order) {w : Nat} {key : CallerKey}
    (entry : ∃ waiter, s.waiters[w]? = some waiter ∧ waiter.key = key ∧ waiter.granted = false) :
    ∃ waiter, (s.drain order).waiters[w]? = some waiter ∧ waiter.key = key ∧
      waiter.granted = false := by
  obtain ⟨waiter, here, charged, without⟩ := entry
  rw [drain_waiters ok ranges, List.getElem?_map, here]
  refine ⟨_, rfl, by rw [stopIf_key, charged], ?_⟩
  unfold stopIf
  split_ifs
  · exact without
  · exact without

theorem Stepped.heldUp {st st' : System} {a : Action} {chosen : Option CallerKey} {w : Nat}
    {key : CallerKey} (ok : Ok st.sched) (stepped : Stepped st a chosen st')
    (alone : byCaller a = false) (heldUp : HeldUp w key st) : HeldUp w key st' := by
  have keeps (busy : ¬ Leaving st) : Barred st.sched key := heldUp.barred.resolve_left busy
  cases stepped with
  | enqueue | abandon | release | stop => cases alone
  | signal => exact ⟨heldUp.entry, heldUp.barred⟩
  | tick waiting | wakeUp waiting =>
      exact ⟨heldUp.entry, .inr (keeps (by simp [Leaving, waiting]))⟩
  | broke _ woken => exact ⟨heldUp.entry, .inr (keeps (by simp [Leaving, woken]))⟩
  | passOver _ affordable => exact ⟨heldUp.entry, .inr (keeps affordable.busy)⟩
  | paced _ affordable granted => exact granted.heldUp heldUp affordable.busy rfl
  | enter _ _ before =>
      refine ⟨heldUp.entry, .inr (keeps ?_)⟩
      rcases before with ticked | woken
      · simp [Leaving, ticked]
      · simp [Leaving, woken]
  | exhausted granting => exact ⟨heldUp.entry, .inr (keeps (by simp [Leaving, granting]))⟩
  | unpaced granting granted => exact granted.heldUp heldUp (by simp [Leaving, granting]) rfl
  | seeStopped => exact ⟨heldUp.entry, .inl (.inl rfl)⟩
  | drain order _ ranges => exact ⟨drain_entry ok ranges heldUp.entry, .inl (.inr rfl)⟩

theorem run_heldUp {st st' : System} {history : List (System × Action)} {w : Nat} {key : CallerKey}
    (ok : Ok st.sched) (run : Run System.step st history st')
    (alone : ∀ p ∈ history, byCaller p.2 = false) (heldUp : HeldUp w key st) : HeldUp w key st' := by
  let Inv (st : System) : Prop := Ok st.sched ∧ HeldUp w key st
  have preserved (s : System) (a : Action) (t : System) (inv : Inv s) (alone : byCaller a = false)
      (step : s.step a = some t) : Inv t :=
    ⟨step_ok inv.1 step, (step_stepped inv.1 step).heldUp inv.1 alone inv.2⟩
  exact (run.invariant_of (motive := Inv) alone ⟨ok, heldUp⟩ preserved).2

def tickedPass (p : System × Action) : Prop := p.1.dispatcher = .ticked ∧ p.2 = .pass

/-- Without a credit the scheduler stays as it is until the pass of the next tick. -/
theorem Stepped.unpaid {st st' : System} {a : Action} {chosen : Option CallerKey}
    {sched : Scheduler} (paced : Paced st) (spent : sched.credit = false)
    (stepped : Stepped st a chosen st') (alone : byCaller a = false)
    (early : ¬ tickedPass (st, a)) (unpaid : Leaving st ∨ st.sched = sched) :
    Leaving st' ∨ st'.sched = sched := by
  have keeps (busy : ¬ Leaving st) : st.sched = sched := unpaid.resolve_left busy
  -- a pass on a wake-up needs a credit
  have unaffordable (pass : a = .pass) : ¬ affords st := by
    intro affordable
    have same := keeps affordable.busy
    rcases affordable with ticked | ⟨-, credit⟩
    · exact early ⟨ticked, pass⟩
    · rw [same, spent] at credit
      cases credit
  cases stepped with
  | enqueue | abandon | release | stop => cases alone
  | signal => exact unpaid
  | tick waiting | wakeUp waiting => exact .inr (keeps (by simp [Leaving, waiting]))
  | broke _ woken => exact .inr (keeps (by simp [Leaving, woken]))
  | passOver _ affordable | paced _ affordable => exact absurd affordable (unaffordable rfl)
  | enter _ unpaced => cases paced.paced.symm.trans unpaced
  | exhausted granting | unpaced granting => exact absurd granting paced.outside
  | seeStopped => exact .inl (.inl rfl)
  | drain => exact .inl (.inr rfl)

theorem run_unpaid {st st' : System} {history : List (System × Action)} (paced : Paced st)
    (spent : st.sched.credit = false) (run : Run System.step st history st')
    (alone : ∀ p ∈ history, byCaller p.2 = false ∧ ¬ tickedPass p) :
    Paced st' ∧ (Leaving st' ∨ st'.sched = st.sched) := by
  let Inv (st' : System) : Prop := Paced st' ∧ (Leaving st' ∨ st'.sched = st.sched)
  have preserved (s : System) (a : Action) (t : System) (inv : Inv s)
      (alone : byCaller a = false ∧ ¬ tickedPass (s, a)) (step : s.step a = some t) : Inv t :=
    ⟨inv.1.step step,
      (step_stepped inv.1.ok step).unpaid inv.1 spent alone.1 alone.2 inv.2⟩
  exact run.invariant_of (motive := Inv) alone ⟨paced, .inr rfl⟩ preserved

def Grants (st : System) (a : Action) : Prop :=
  ∃ (st' : System) (w : Nat) (waiter : Waiter), st.step a = some st' ∧
    st.sched.waiters[w]? = some waiter ∧ waiter.granted = false ∧
    st'.sched.waiters[w]? = some waiter.grant

theorem pass_of_ticked {st : System} (paced : Paced st) (ticked : st.dispatcher = .ticked) :
    st.step .pass = some { st with
      sched := { st.sched with credit := true }.dispatchLocked
      dispatcher := .waiting } := by
  simp [System.step, System.unlocked, ticked, paced.ok.slots.free, paced.paced]

theorem pass_grants {st : System} {k : String} (paced : Paced st) (ticked : st.dispatcher = .ticked)
    (grantable : Grantable st.sched k) : Grants st .pass := by
  cases grant : st.sched.grantOneLocked with
  | none => exact absurd grantable ((grantOneLocked_eq_none paced.ok).mp grant k)
  | some result =>
      obtain ⟨s, w⟩ := result
      obtain ⟨key, granted⟩ := grantOneLocked_eq_some paced.ok grant
      have step := pass_of_ticked paced ticked
      rw [dispatchLocked_paced paced.paced, grant] at step
      cases granted with
      | @mk _ _ _ waiter _ _ _ _ _ _ _ _ _ _ _ _ _ known waiting =>
          simp only [pending, Bool.and_eq_true, Bool.not_eq_true'] at waiting
          exact ⟨_, w, waiter, step, known, waiting.1.1, by simp [known]⟩

/-- A waiter that is told `concurrency` is not granted by ticks; one that is told `rate_limit` while
no credit is held waits for a tick that grants; and where a credit is held and nobody is going to
spend it, every waiter is told `concurrency`. -/
theorem stage_constrains (cap : Nat) (limit : Int) (positive : 1 ≤ cap) {st : System}
    (reachable : Reachable cap true limit st) {w : Nat} {waiter : Waiter}
    (known : st.sched.waiters[w]? = some waiter)
    (queued : w ∈ (st.sched.session waiter.key).queue) :
    (st.sched.stage waiter = .concurrency → ∀ history st', Run System.step st history st' →
      (∀ p ∈ history, byCaller p.2 = false) →
      ∃ waiter', st'.sched.waiters[w]? = some waiter' ∧ waiter'.granted = false) ∧
    (st.sched.stage waiter = .rateLimit → st.sched.credit = false →
      ∀ history st', Run System.step st history st' →
      (∀ p ∈ history, byCaller p.2 = false ∧ ¬ tickedPass p) → st'.dispatcher = .ticked →
      Grants st' .pass) ∧
    (st.dispatcher = .waiting → st.wake = false → st.signalling = 0 → st.sched.credit = true →
      st.sched.stage waiter = .concurrency) := by
  obtain ⟨past, run⟩ := reachable
  obtain ⟨ok, unneeded⟩ := reachable_unneeded positive run
  refine ⟨?_, ?_, ?_⟩
  · intro stage history st' later alone
    have waiting : pending waiter = true := by
      rw [ok.queue] at queued
      obtain ⟨waiter', known', -, waiting⟩ := mem_pendingIds.mp queued
      obtain rfl := Option.some.inj (known.symm.trans known')
      exact waiting
    simp only [pending, Bool.and_eq_true, Bool.not_eq_true'] at waiting
    have heldUp : HeldUp w waiter.key st :=
      ⟨⟨waiter, known, rfl, waiting.1.1⟩, .inr (barred_of_concurrency queued stage)⟩
    obtain ⟨waiter', known', -, without⟩ := (run_heldUp ok later alone heldUp).entry
    exact ⟨waiter', known', without⟩
  · intro stage spent history st' later alone ticked
    have paced := (run.invariant (start_paced positive limit) fun _ _ _ => Paced.step).1
    obtain ⟨paced', unpaid⟩ := run_unpaid paced spent later alone
    have same : st'.sched = st.sched := unpaid.resolve_left (by simp [Leaving, ticked])
    refine pass_grants paced' ticked (k := waiter.key.subject) ?_
    rw [same]
    exact grantable_of_rateLimit queued stage
  · intro waiting asleep silent credit
    cases stage : st.sched.stage waiter with
    | concurrency => rfl
    | rateLimit =>
        have nobody := unneeded ⟨asleep, silent, waiting, .inr credit⟩
        exact absurd (grantable_of_rateLimit queued stage) (nobody _)

-- A slot and a credit are free, but `a` holds its ceiling, so its third waiter is told so and stays.
theorem stage_constrains_at_ceiling : ∃ st, Reachable 4 true 4 st ∧
    ∃ waiter, st.sched.waiters[2]? = some waiter ∧ st.sched.stage waiter = .concurrency ∧
      ∀ history st', Run System.step st history st' → (∀ p ∈ history, byCaller p.2 = false) →
        ∃ waiter', st'.sched.waiters[2]? = some waiter' ∧ waiter'.granted = false := by
  obtain ⟨st, done, known, queued, waiting, asleep, silent, credit⟩ :
      ∃ st, exec System.step (.start ⟨4, 0, false⟩ true 4)
        [.enqueue ⟨"a", "x"⟩, .signal, .enqueue ⟨"a", "x"⟩, .signal, .enqueue ⟨"a", "x"⟩, .signal,
          .enqueue ⟨"b", "x"⟩, .signal, .tick, .pass, .tick, .pass, .tick, .pass, .tick, .pass,
          .wakeUp, .pass] = some st ∧
        st.sched.waiters[2]? = some (.new ⟨"a", "x"⟩) ∧
        2 ∈ (st.sched.session ⟨"a", "x"⟩).queue ∧ st.dispatcher = .waiting ∧ st.wake = false ∧
        st.signalling = 0 ∧ st.sched.credit = true :=
    ⟨_, rfl, rfl, .head _, rfl, rfl, rfl, rfl⟩
  have reachable : Reachable 4 true 4 st := ⟨_, run_of_exec done⟩
  obtain ⟨barred, -, idle⟩ := stage_constrains 4 4 (by decide) reachable known queued
  have stage := idle waiting asleep silent credit
  exact ⟨st, reachable, _, known, stage, barred stage⟩

end BrokerMcp.Proof.Scheduler
