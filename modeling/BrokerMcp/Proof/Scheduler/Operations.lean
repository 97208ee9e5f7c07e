import BrokerMcp.Proof.Scheduler.Accounting

namespace BrokerMcp.Proof.Scheduler
open Resilience

theorem Accounted.put {ν : Type} {weight : ν → Nat} {rotor : Rotor}
    {table : AList fun _ : String => ν} {inFlight n : Nat} {k : String} {fresh w : ν}
    (accounted : Accounted weight rotor table inFlight) (empty : weight fresh = 0)
    (balance : n + weight ((table.lookup k).getD fresh) = inFlight + weight w) :
    Accounted weight (if (table.lookup k).isSome then rotor else rotor.insert k)
      (table.insert k w) n := by
  cases found : table.lookup k with
  | none =>
      rw [found, Option.getD_none, empty] at balance
      have total : n = inFlight + weight w := by omega
      rw [total]
      exact accounted.add found w
  | some v =>
      rw [found, Option.getD_some] at balance
      exact accounted.overwrite found (.refl _) balance

theorem subject_accounted {s : Scheduler} (ok : Ok s) (k : String) :
    Accounted SessionState.inFlight (s.subject k).rotor (s.subject k).sessions
      (s.subject k).inFlight := by
  cases found : s.subjects.lookup k with
  | none =>
      rw [Scheduler.subject, found]
      exact ⟨List.nodup_nil, fun _ => by simp [SubjectState.new], rfl⟩
  | some subj =>
      rw [subject_eq found]
      exact ok.inner k subj found

theorem enqueue_stopped_ok {s : Scheduler} (ok : Ok s) (key : CallerKey) :
    Ok (s.enqueue true key) := by
  have silent : pending (Waiter.new key).stop = false ∧ holding (Waiter.new key).stop = false :=
    ⟨rfl, rfl⟩
  refine { ok with queue := ?_, held := ?_ }
  · intro k
    change (s.session k).queue = pendingIds (s.waiters ++ [(Waiter.new key).stop]) k
    simpa [pendingIds_append, silent.1] using ok.queue k
  · intro k
    change (s.session k).inFlight = holders (s.waiters ++ [(Waiter.new key).stop]) k
    simpa [holders_append, silent.2] using ok.held k

theorem enqueue_ok {s : Scheduler} (ok : Ok s) (stopped : Bool) (key : CallerKey) :
    Ok (s.enqueue stopped key) := by
  cases stopped with
  | true => exact enqueue_stopped_ok ok key
  | false =>
      have stored : Accounting (· = key) (s.enqueue false key) := by
        refine Accounting.store ok rfl rfl ?_ ?_ ?_ ?_ ok.slots
        · exact ok.outer.put rfl rfl
        · exact (subject_accounted ok key.subject).put rfl rfl
        · intro k
          simp only [Scheduler.enqueue, Bool.false_eq_true, ↓reduceIte, pendingIds_append]
          by_cases same : k = key
          · subst same
            simpa [pending, Waiter.new, Scheduler.session] using ok.queue k
          · simpa [same, Ne.symm same, Waiter.new] using ok.queue k
        · intro k
          simp only [Scheduler.enqueue, Bool.false_eq_true, ↓reduceIte, holders_append]
          by_cases same : k = key
          · subst same
            simpa [holding, Waiter.new, Scheduler.session] using ok.held k
          · simpa [same, holding, Waiter.new] using ok.held k
      refine stored.settle fun subj cs found entry => ?_
      simp only [Scheduler.enqueue, Bool.false_eq_true, ↓reduceIte, AList.lookup_insert] at found
      rw [← Option.some.inj found, AList.lookup_insert] at entry
      simp [← Option.some.inj entry, SessionState.active]

section Release

variable {s : Scheduler} {w : Nat} {waiter : Waiter}

theorem holder_held (ok : Ok s) (found : s.waiters[w]? = some waiter)
    (holds : holding waiter = true) : ∃ subj cs, s.subjects.lookup waiter.key.subject = some subj ∧
      subj.sessions.lookup waiter.key.session = some cs ∧ 0 < cs.inFlight := by
  have counted : 0 < (s.session waiter.key).inFlight := by
    rw [ok.held, holders, List.countP_pos_iff]
    exact ⟨waiter, List.mem_of_getElem? found, by simp [holds]⟩
  cases subject : s.subjects.lookup waiter.key.subject with
  | none =>
      simp [session_of_no_subject subject, SessionState.new] at counted
  | some subj =>
      cases entry : subj.sessions.lookup waiter.key.session with
      | none => simp [session_of_no_session subject entry, SessionState.new] at counted
      | some cs =>
          rw [session_of_lookup subject entry] at counted
          exact ⟨subj, cs, rfl, entry, counted⟩

def released (s : Scheduler) (w : Nat) (key : CallerKey) (subj : SubjectState)
    (cs : SessionState) : Scheduler :=
  { s with
    waiters := s.waiters.modify w Waiter.resolve
    sem := s.sem.receive
    inFlight := s.inFlight - 1
    subjects := s.subjects.insert key.subject { subj with
      inFlight := subj.inFlight - 1
      sessions := subj.sessions.insert key.session { cs with inFlight := cs.inFlight - 1 } } }

theorem releaseLocked_eq {key : CallerKey} {subj : SubjectState} {cs : SessionState}
    (subject : s.subjects.lookup key.subject = some subj)
    (entry : subj.sessions.lookup key.session = some cs) (counted : 0 < cs.inFlight) :
    { s with waiters := s.waiters.modify w Waiter.resolve }.releaseLocked key =
      (released s w key subj cs).pruneSessionLocked key := by
  simp only [Scheduler.releaseLocked, subject, entry, Nat.pos_iff_ne_zero.mp counted, ↓reduceIte]
  rfl

theorem pendingIds_resolve (ws : List Waiter) (w : Nat) (key : CallerKey) :
    pendingIds (ws.modify w Waiter.resolve) key = (pendingIds ws key).erase w :=
  pendingIds_modify ws w (fun v => by simp [pending, Waiter.resolve]) key

theorem pendingIds_resolve_of_not_pending {key : CallerKey} (found : s.waiters[w]? = some waiter)
    (settled : pending waiter = false) :
    pendingIds (s.waiters.modify w Waiter.resolve) key = pendingIds s.waiters key := by
  rw [pendingIds_resolve]
  apply List.erase_of_not_mem
  rw [mem_pendingIds]
  rintro ⟨v, found', -, waiting⟩
  obtain rfl := Option.some.inj (found.symm.trans found')
  simp [settled] at waiting

theorem released_accounting (ok : Ok s) (found : s.waiters[w]? = some waiter)
    (holds : holding waiter = true) {subj : SubjectState} {cs : SessionState}
    (subject : s.subjects.lookup waiter.key.subject = some subj)
    (entry : subj.sessions.lookup waiter.key.session = some cs) (counted : 0 < cs.inFlight) :
    Accounting (· = waiter.key) (released s w waiter.key subj cs) := by
  have inner := ok.inner _ _ subject
  have inSubject : cs.inFlight ≤ subj.inFlight := by
    rw [inner.total]
    exact AList.le_total entry _
  have inTotal : subj.inFlight ≤ s.inFlight := by
    rw [ok.outer.total]
    exact AList.le_total subject _
  refine Accounting.store ok rfl (by rw [subject_eq subject]) ?_ ?_ ?_ ?_ ?_
  · exact ok.outer.overwrite subject (.refl _) (by simp only [released]; omega)
  · exact inner.overwrite entry (.refl _) (by simp only; omega)
  · intro k
    have settled : pending waiter = false := by
      simp only [holding, Bool.and_eq_true] at holds
      simp [pending, holds.1]
    simp only [released, pendingIds_resolve_of_not_pending found settled]
    split_ifs with same
    · rw [same, ← ok.queue, session_of_lookup subject entry]
    · exact ok.queue k
  · intro k
    have change := holders_modify found Waiter.resolve k
    have before := ok.held k
    have after : holding waiter.resolve = false := by simp [holding, Waiter.resolve]
    simp only [released]
    split_ifs with same
    · subst same
      rw [session_of_lookup subject entry] at before
      simp only [holds, after, decide_true, Bool.and_self, Bool.and_false, ↓reduceIte,
        Bool.false_eq_true, Nat.add_zero] at change ⊢
      omega
    · simp only [Ne.symm same, after, decide_false, Bool.false_and, Bool.and_false,
        Bool.false_eq_true, ↓reduceIte, Nat.add_zero] at change
      omega
  · exact ok.slots.receive (by omega)

theorem releaseLocked_ok (ok : Ok s) (found : s.waiters[w]? = some waiter)
    (holds : holding waiter = true) :
    Ok ({ s with waiters := s.waiters.modify w Waiter.resolve }.releaseLocked waiter.key) := by
  obtain ⟨subj, cs, subject, entry, counted⟩ := holder_held ok found holds
  rw [releaseLocked_eq subject entry counted]
  exact pruneSessionLocked_ok (released_accounting ok found holds subject entry counted)

theorem release_ok (ok : Ok s) (found : s.waiters[w]? = some waiter) :
    Ok (s.release w waiter).1 := by
  unfold Scheduler.release
  split_ifs with ignored
  · exact ok
  · apply releaseLocked_ok ok found
    simpa [holding, and_comm] using ignored

end Release

def unqueuedSubject (w : Nat) (m : String) (subj : SubjectState) (cs : SessionState) :
    SubjectState :=
  { subj with sessions := subj.sessions.insert m { cs with queue := cs.queue.erase w } }

section Abandon

variable {s : Scheduler} {w : Nat} {waiter : Waiter}

theorem holders_resolve_of_not_holding {key : CallerKey} (found : s.waiters[w]? = some waiter)
    (free : holding waiter = false) :
    holders (s.waiters.modify w Waiter.resolve) key = holders s.waiters key := by
  have change := holders_modify found Waiter.resolve key
  have after : holding waiter.resolve = false := by simp [holding, Waiter.resolve]
  simpa [free, after] using change

theorem queue_erase_of_other {key : CallerKey} (ok : Ok s) (found : s.waiters[w]? = some waiter)
    (other : key ≠ waiter.key) : (s.session key).queue.erase w = (s.session key).queue := by
  apply List.erase_of_not_mem
  rw [ok.queue, mem_pendingIds]
  rintro ⟨v, found', same, -⟩
  obtain rfl := Option.some.inj (found.symm.trans found')
  exact other same.symm

theorem resolve_absent_ok (ok : Ok s) (found : s.waiters[w]? = some waiter)
    (free : holding waiter = false) (absent : (s.session waiter.key).queue = []) :
    Ok { s with waiters := s.waiters.modify w Waiter.resolve } := by
  refine { ok with queue := ?_, held := ?_ }
  · intro key
    change (s.session key).queue = _
    rw [pendingIds_resolve, ← ok.queue]
    by_cases same : key = waiter.key
    · simp [same, absent]
    · exact (queue_erase_of_other ok found same).symm
  · intro key
    change (s.session key).inFlight = _
    rw [holders_resolve_of_not_holding found free, ok.held]

def unqueued (s : Scheduler) (w : Nat) (key : CallerKey) (subj : SubjectState)
    (cs : SessionState) : Scheduler :=
  { s with
    waiters := s.waiters.modify w Waiter.resolve
    subjects := s.subjects.insert key.subject (unqueuedSubject w key.session subj cs) }

theorem removeFromQueueLocked_eq {key : CallerKey} {subj : SubjectState} {cs : SessionState}
    (subject : s.subjects.lookup key.subject = some subj)
    (entry : subj.sessions.lookup key.session = some cs) :
    { s with waiters := s.waiters.modify w Waiter.resolve }.removeFromQueueLocked w key =
      (unqueued s w key subj cs).pruneSessionLocked key := by
  simp only [Scheduler.removeFromQueueLocked, subject, entry]
  rfl

theorem unqueued_accounting (ok : Ok s) (found : s.waiters[w]? = some waiter)
    (free : holding waiter = false) {subj : SubjectState} {cs : SessionState}
    (subject : s.subjects.lookup waiter.key.subject = some subj)
    (entry : subj.sessions.lookup waiter.key.session = some cs) :
    Accounting (· = waiter.key) (unqueued s w waiter.key subj cs) := by
  have own := session_of_lookup subject entry
  refine Accounting.store ok rfl (by rw [subject_eq subject]; rfl) ?_ ?_ ?_ ?_ ok.slots
  · exact ok.outer.overwrite subject (.refl _) rfl
  · exact (ok.inner _ _ subject).overwrite entry (.refl _) rfl
  · intro key
    simp only [unqueued]
    rw [pendingIds_resolve, ← ok.queue]
    split_ifs with same
    · rw [same, own]
    · exact (queue_erase_of_other ok found same).symm
  · intro key
    simp only [unqueued]
    rw [holders_resolve_of_not_holding found free, ← ok.held]
    split_ifs with same
    · rw [same, own]
    · rfl

theorem removeFromQueueLocked_ok (ok : Ok s) (found : s.waiters[w]? = some waiter)
    (free : holding waiter = false) :
    Ok ({ s with waiters := s.waiters.modify w Waiter.resolve }.removeFromQueueLocked w
      waiter.key) := by
  cases subject : s.subjects.lookup waiter.key.subject with
  | none =>
      simp only [Scheduler.removeFromQueueLocked, subject]
      apply resolve_absent_ok ok found free
      simp [session_of_no_subject subject, SessionState.new]
  | some subj =>
      cases entry : subj.sessions.lookup waiter.key.session with
      | none =>
          simp only [Scheduler.removeFromQueueLocked, subject, entry]
          apply resolve_absent_ok ok found free
          simp [session_of_no_session subject entry, SessionState.new]
      | some cs =>
          rw [removeFromQueueLocked_eq subject entry]
          exact pruneSessionLocked_ok (unqueued_accounting ok found free subject entry)

theorem abandon_ok (ok : Ok s) (found : s.waiters[w]? = some waiter) :
    Ok (s.abandon w waiter).1 := by
  unfold Scheduler.abandon
  split_ifs with settled granted
  · exact ok
  · exact releaseLocked_ok ok found (by simp [holding, granted, settled])
  · exact removeFromQueueLocked_ok ok found (by simp [holding, granted])

end Abandon

end BrokerMcp.Proof.Scheduler
