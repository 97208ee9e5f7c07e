import BrokerMcp.Proof.Scheduler.Operations

namespace BrokerMcp.Proof.Scheduler
open Resilience

def Servable (s : Scheduler) (subj : SubjectState) (m : String) : Prop :=
  ∃ cs, subj.sessions.lookup m = some cs ∧ cs.queue ≠ [] ∧ s.sessionEligibleLocked subj m cs = true

def Grantable (s : Scheduler) (k : String) : Prop :=
  ∃ subj, s.subjects.lookup k = some subj ∧ s.eligibleLocked k subj = true ∧
    ∃ m, Servable s subj m

theorem servable_iff {s : Scheduler} {subj : SubjectState} : (∃ m, Servable s subj m) ↔
    (subj.sessions.any fun m cs => !cs.queue.isEmpty && s.sessionEligibleLocked subj m cs) = true := by
  simp [AList.any_iff, Servable]

instance (s : Scheduler) (k : String) : Decidable (Grantable s k) :=
  match found : s.subjects.lookup k with
  | none => .isFalse fun ⟨subj, here, _⟩ => by simp [found] at here
  | some subj =>
      decidable_of_iff (s.eligibleLocked k subj = true ∧ _ = true)
        ((and_congr_right fun _ => servable_iff.symm).trans
          ⟨fun h => ⟨subj, found, h⟩, fun ⟨subj', here, h⟩ => by
            rwa [Option.some.inj (found.symm.trans here)]⟩)

theorem hasQueued_of_servable {s : Scheduler} {subj : SubjectState} {m : String}
    (servable : Servable s subj m) : subj.hasQueued = true := by
  obtain ⟨cs, entry, queued, -⟩ := servable
  exact AList.any_iff.mpr ⟨m, cs, entry, by simpa using queued⟩

inductive Dequeued (s : Scheduler) (subj : SubjectState) (m : String) (w : Nat) :
    SubjectState → Prop where
  | mk {cs : SessionState} {rest : List Nat} {passed behind : List String}
      (order : subj.rotor.order = passed ++ m :: behind)
      (skipped : ∀ m' ∈ passed, ¬ Servable s subj m')
      (entry : subj.sessions.lookup m = some cs)
      (queue : cs.queue = w :: rest)
      (eligible : s.sessionEligibleLocked subj m cs = true) :
      Dequeued s subj m w { subj with
        sessions := subj.sessions.insert m { cs with queue := rest }
        rotor := subj.rotor.advancePast passed.length }

theorem visitSession_eq_none {s : Scheduler} {subj : SubjectState} {m : String} {i : Nat}
    (missed : s.visitSession subj i m = none) : ¬ Servable s subj m := by
  rintro ⟨cs, entry, queued, eligible⟩
  cases queue : cs.queue with
  | nil => exact queued queue
  | cons w rest => simp [Scheduler.visitSession, entry, queue, eligible] at missed

theorem visitSession_eq_some {s : Scheduler} {subj subj' : SubjectState} {m : String} {i w : Nat}
    (hit : s.visitSession subj i m = some (w, subj')) :
    ∃ cs rest, subj.sessions.lookup m = some cs ∧ cs.queue = w :: rest ∧
      s.sessionEligibleLocked subj m cs = true ∧ subj' = { subj with
        sessions := subj.sessions.insert m { cs with queue := rest }
        rotor := subj.rotor.advancePast i } := by
  cases entry : subj.sessions.lookup m with
  | none => simp [Scheduler.visitSession, entry] at hit
  | some cs =>
      cases queue : cs.queue with
      | nil => simp [Scheduler.visitSession, entry, queue] at hit
      | cons v rest =>
          cases eligible : s.sessionEligibleLocked subj m cs with
          | false => simp [Scheduler.visitSession, entry, queue, eligible] at hit
          | true =>
              simp only [Scheduler.visitSession, entry, queue, eligible, Option.bind_eq_bind,
                Option.bind_some, ↓reduceIte, Option.some.injEq, Prod.mk.injEq] at hit
              obtain ⟨rfl, rfl⟩ := hit
              exact ⟨cs, rest, rfl, queue, eligible, rfl⟩

theorem dequeueLocked_eq_some {s : Scheduler} {subj subj' : SubjectState} {w : Nat}
    (taken : s.dequeueLocked subj = some (w, subj')) : ∃ m, Dequeued s subj m w subj' := by
  obtain ⟨passed, m, behind, order, hit, missed⟩ := Rotor.scan_eq_some taken
  obtain ⟨cs, rest, entry, queue, eligible, rfl⟩ := visitSession_eq_some hit
  refine ⟨m, .mk order (fun m' member => ?_) entry queue eligible⟩
  obtain ⟨i, miss⟩ := missed m' member
  exact visitSession_eq_none miss

theorem dequeueLocked_eq_none {s : Scheduler} {subj : SubjectState}
    (accounted : Accounted SessionState.inFlight subj.rotor subj.sessions subj.inFlight)
    (missed : s.dequeueLocked subj = none) (m : String) : ¬ Servable s subj m := by
  intro servable
  obtain ⟨cs, entry, queued, eligible⟩ := servable
  have member : m ∈ subj.rotor.order :=
    (accounted.covers m).mpr (AList.lookup_isSome.mp (by simp [entry]))
  obtain ⟨i, miss⟩ := Rotor.scan_eq_none missed m member
  exact visitSession_eq_none miss ⟨cs, entry, queued, eligible⟩

inductive Granted (s : Scheduler) (w : Nat) (key : CallerKey) : Scheduler → Prop where
  | mk {subj : SubjectState} {cs : SessionState} {rest : List Nat} {waiter : Waiter}
      {passed behind innerPassed innerBehind : List String}
      (order : s.rotor.order = passed ++ key.subject :: behind)
      (skipped : ∀ k ∈ passed, ¬ Grantable s k)
      (found : s.subjects.lookup key.subject = some subj)
      (eligible : s.eligibleLocked key.subject subj = true)
      (innerOrder : subj.rotor.order = innerPassed ++ key.session :: innerBehind)
      (innerSkipped : ∀ m ∈ innerPassed, ¬ Servable s subj m)
      (entry : subj.sessions.lookup key.session = some cs)
      (queue : cs.queue = w :: rest)
      (sessionEligible : s.sessionEligibleLocked subj key.session cs = true)
      (known : s.waiters[w]? = some waiter)
      (waiting : pending waiter = true)
      (charged : waiter.key = key) :
      Granted s w key { s with
        waiters := s.waiters.modify w Waiter.grant
        sem := s.sem.send
        inFlight := s.inFlight + 1
        subjects := s.subjects.insert key.subject
          { sessions := subj.sessions.insert key.session ⟨rest, cs.inFlight + 1⟩
            rotor := subj.rotor.advancePast innerPassed.length
            inFlight := subj.inFlight + 1 }
        rotor := s.rotor.advancePast passed.length }

theorem Granted.grantable {s s' : Scheduler} {w : Nat} {key : CallerKey}
    (granted : Granted s w key s') : Grantable s key.subject := by
  cases granted with
  | @mk subj cs rest _ _ _ _ _ _ _ found eligible _ _ entry queue sessionEligible =>
      exact ⟨subj, found, eligible, key.session, cs, entry, by simp [queue], sessionEligible⟩

theorem queued_waiter {s : Scheduler} (ok : Ok s) {k m : String} {subj : SubjectState}
    {cs : SessionState} {w : Nat} {rest : List Nat} (found : s.subjects.lookup k = some subj)
    (entry : subj.sessions.lookup m = some cs) (queue : cs.queue = w :: rest) :
    ∃ waiter, s.waiters[w]? = some waiter ∧ waiter.key = ⟨k, m⟩ ∧ pending waiter = true := by
  apply mem_pendingIds.mp
  rw [← ok.queue, session_of_lookup found entry, queue]
  exact List.mem_cons_self

theorem grantTo_eq {s : Scheduler} {key : CallerKey} {subj : SubjectState} {cs : SessionState}
    {rest : List Nat} {i j w : Nat} :
    s.grantTo i key.subject { subj with
        sessions := subj.sessions.insert key.session { cs with queue := rest }
        rotor := subj.rotor.advancePast j } w key =
      { s with
        waiters := s.waiters.modify w Waiter.grant
        sem := s.sem.send
        inFlight := s.inFlight + 1
        subjects := s.subjects.insert key.subject
          { sessions := subj.sessions.insert key.session ⟨rest, cs.inFlight + 1⟩
            rotor := subj.rotor.advancePast j
            inFlight := subj.inFlight + 1 }
        rotor := s.rotor.advancePast i } := by
  -- The session that was just granted a slot is not pruned.
  simp [Scheduler.grantTo, Scheduler.pruneSessionLocked, SubjectState.session,
    SessionState.active]

theorem visitSubject_eq_none {s : Scheduler} (ok : Ok s) {k : String} {i : Nat}
    (missed : s.visitSubject i k = none) : ¬ Grantable s k := by
  rintro ⟨subj, found, eligible, m, servable⟩
  cases taken : s.dequeueLocked subj with
  | none => exact dequeueLocked_eq_none (ok.inner k subj found) taken m servable
  | some result =>
      obtain ⟨w, subj'⟩ := result
      obtain ⟨m', ⟨order, skipped, entry, queue, -⟩⟩ := dequeueLocked_eq_some taken
      obtain ⟨waiter, known, -, -⟩ := queued_waiter ok found entry queue
      simp [Scheduler.visitSubject, found, hasQueued_of_servable servable, eligible, taken,
        known] at missed

theorem visitSubject_eq_some {s s' : Scheduler} {k : String} {i w : Nat}
    (hit : s.visitSubject i k = some (s', w)) :
    ∃ subj subj' waiter, s.subjects.lookup k = some subj ∧ s.eligibleLocked k subj = true ∧
      s.dequeueLocked subj = some (w, subj') ∧ s.waiters[w]? = some waiter ∧
      s' = s.grantTo i k subj' w waiter.key := by
  cases found : s.subjects.lookup k with
  | none => simp [Scheduler.visitSubject, found] at hit
  | some subj =>
      cases queued : subj.hasQueued with
      | false => simp [Scheduler.visitSubject, found, queued] at hit
      | true =>
          cases eligible : s.eligibleLocked k subj with
          | false => simp [Scheduler.visitSubject, found, queued, eligible] at hit
          | true =>
              cases taken : s.dequeueLocked subj with
              | none => simp [Scheduler.visitSubject, found, queued, eligible, taken] at hit
              | some result =>
                  obtain ⟨v, subj'⟩ := result
                  cases known : s.waiters[v]? with
                  | none =>
                      simp [Scheduler.visitSubject, found, queued, eligible, taken, known] at hit
                  | some waiter =>
                      simp only [Scheduler.visitSubject, found, queued, eligible, taken, known,
                        Option.bind_eq_bind, Option.bind_some, Bool.not_true, Bool.false_eq_true,
                        ↓reduceIte, Option.some.injEq, Prod.mk.injEq] at hit
                      obtain ⟨rfl, rfl⟩ := hit
                      exact ⟨subj, subj', waiter, rfl, eligible, taken, known, rfl⟩

theorem grantOneLocked_eq_some {s s' : Scheduler} {w : Nat} (ok : Ok s)
    (grant : s.grantOneLocked = some (s', w)) : ∃ key, Granted s w key s' := by
  obtain ⟨passed, k, behind, order, hit, missed⟩ := Rotor.scan_eq_some grant
  have skipped : ∀ k' ∈ passed, ¬ Grantable s k' := by
    intro k' member
    obtain ⟨i, miss⟩ := missed k' member
    exact visitSubject_eq_none ok miss
  obtain ⟨subj, subj', waiter, found, eligible, taken, known, rfl⟩ := visitSubject_eq_some hit
  obtain ⟨m, ⟨innerOrder, innerSkipped, entry, queue, sessionEligible⟩⟩ :=
    dequeueLocked_eq_some taken
  obtain ⟨waiter', known', charged, waiting⟩ := queued_waiter ok found entry queue
  obtain rfl := Option.some.inj (known.symm.trans known')
  refine ⟨⟨k, m⟩, ?_⟩
  have state := @grantTo_eq s ⟨k, m⟩ subj
  rw [charged, state]
  exact .mk order skipped found eligible innerOrder innerSkipped entry queue sessionEligible known
    waiting charged

theorem grantOneLocked_eq_none {s : Scheduler} (ok : Ok s) :
    s.grantOneLocked = none ↔ ∀ k, ¬ Grantable s k := by
  constructor
  · intro missed k grantable
    obtain ⟨subj, found, -⟩ := id grantable
    have member : k ∈ s.rotor.order :=
      (ok.outer.covers k).mpr (AList.lookup_isSome.mp (by simp [found]))
    obtain ⟨i, miss⟩ := Rotor.scan_eq_none missed k member
    exact visitSubject_eq_none ok miss grantable
  · intro nobody
    cases grant : s.grantOneLocked with
    | none => rfl
    | some result =>
        obtain ⟨s', w⟩ := result
        obtain ⟨key, granted⟩ := grantOneLocked_eq_some ok grant
        exact absurd granted.grantable (nobody key.subject)

theorem eligible_room {s : Scheduler} {k : String} {subj : SubjectState}
    (eligible : s.eligibleLocked k subj = true) : s.inFlight < s.limit := by
  by_contra full
  have none : s.limit - s.inFlight = 0 := by omega
  simp [Scheduler.eligibleLocked, none] at eligible

theorem pending_grant (w : Waiter) : pending w.grant = false := by
  simp [pending, Waiter.grant]

theorem holding_grant {w : Waiter} (waiting : pending w = true) : holding w.grant = true := by
  simp only [pending, Bool.and_eq_true] at waiting
  simp [holding, Waiter.grant, waiting.1.2]

theorem holding_of_pending {w : Waiter} (waiting : pending w = true) : holding w = false := by
  simp only [pending, Bool.and_eq_true, Bool.not_eq_true'] at waiting
  simp [holding, waiting.1.1]

theorem Granted.ok {s s' : Scheduler} {w : Nat} {key : CallerKey} (ok : Ok s)
    (granted : Granted s w key s') : Ok s' := by
  cases granted with
  | @mk subj cs rest waiter passed behind innerPassed innerBehind _ _ found eligible _ _ entry queue
      _ known waiting charged =>
      have own := session_of_lookup found entry
      apply Accounting.settle
      · refine Accounting.store ok rfl (by rw [subject_eq found]) ?_ ?_ ?_ ?_
          (ok.slots.send (eligible_room eligible))
        · exact ok.outer.overwrite found (order_advancePast_perm _ _) (by simp only; omega)
        · exact (ok.inner _ _ found).overwrite entry (order_advancePast_perm _ _)
            (by simp only; omega)
        · intro k
          rw [pendingIds_modify _ _ pending_grant, ← ok.queue]
          split_ifs with same
          · rw [same, own, queue, List.erase_cons_head]
          · exact (queue_erase_of_other ok known (charged ▸ same)).symm
        · intro k
          have change := holders_modify known Waiter.grant k
          have before := ok.held k
          have same : (Waiter.grant waiter).key = key := charged
          simp only [holding_of_pending waiting, holding_grant waiting, same, charged,
            Bool.and_false, Bool.and_true, decide_eq_true_eq, Bool.false_eq_true, ↓reduceIte] at change
          split_ifs at change ⊢ with here there there
          · subst here
            rw [own] at before
            simp only
            omega
          · exact absurd here.symm there
          · exact absurd there.symm here
          · simp only
            omega
      · intro subj' cs' found' entry'
        rw [AList.lookup_insert] at found'
        rw [← Option.some.inj found', AList.lookup_insert] at entry'
        simp [← Option.some.inj entry', SessionState.active]

end BrokerMcp.Proof.Scheduler
