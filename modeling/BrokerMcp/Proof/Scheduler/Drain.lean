import BrokerMcp.Proof.Scheduler.Granting

namespace BrokerMcp.Proof.Scheduler
open Resilience

def stopIf (p : CallerKey → Prop) [DecidablePred p] (w : Waiter) : Waiter :=
  if pending w ∧ p w.key then w.stop else w

section StopIf

variable (p : CallerKey → Prop) [DecidablePred p]

@[simp]
theorem stopIf_key (w : Waiter) : (stopIf p w).key = w.key := by
  unfold stopIf
  split_ifs <;> rfl

@[simp]
theorem pending_stop (w : Waiter) : pending w.stop = false := by
  simp [pending, Waiter.stop]

@[simp]
theorem holding_stopIf (w : Waiter) : holding (stopIf p w) = holding w := by
  unfold stopIf
  split_ifs <;> rfl

theorem pending_stopIf (w : Waiter) :
    pending (stopIf p w) = (pending w && !decide (p w.key)) := by
  unfold stopIf
  split_ifs with stopped
  · simp [stopped.2]
  · cases waiting : pending w with
    | false => rfl
    | true => simpa [waiting] using stopped

theorem stopIf_stopIf (q : CallerKey → Prop) [DecidablePred q] (w : Waiter) :
    stopIf p (stopIf q w) = stopIf (fun k => p k ∨ q k) w := by
  by_cases waiting : pending w = true
  · by_cases stopped : q w.key
    · simp [stopIf, waiting, stopped]
    · simp [stopIf, waiting, stopped]
  · simp [stopIf, waiting]

theorem pendingIds_map_stopIf (ws : List Waiter) (key : CallerKey) :
    pendingIds (ws.map (stopIf p)) key = if p key then [] else pendingIds ws key := by
  have queued (i : Nat) : (ws.map (stopIf p))[i]?.any (fun w => w.key = key && pending w) =
      (!decide (p key) && ws[i]?.any fun w => w.key = key && pending w) := by
    rw [List.getElem?_map]
    cases ws[i]? with
    | none => simp
    | some w =>
        by_cases same : w.key = key
        · simp [pending_stopIf, same, Bool.and_comm]
        · simp [same]
  simp only [pendingIds, List.length_map, queued]
  split_ifs with stopped
  · simp [stopped]
  · simp [stopped]

theorem holders_map_stopIf (ws : List Waiter) (key : CallerKey) :
    holders (ws.map (stopIf p)) key = holders ws key := by
  simp [holders, List.countP_map, Function.comp_def]

end StopIf

theorem getElem?_stop_all {ids : List Nat} (distinct : ids.Nodup) (ws : List Waiter) (i : Nat) :
    (ids.foldl (fun ws w => ws.modify w Waiter.stop) ws)[i]? =
      if i ∈ ids then ws[i]?.map Waiter.stop else ws[i]? := by
  induction ids generalizing ws with
  | nil => simp
  | cons j ids ih =>
      obtain ⟨fresh, distinct⟩ := List.nodup_cons.mp distinct
      rw [List.foldl_cons, ih distinct, List.getElem?_modify]
      by_cases same : j = i
      · subst same
        simp [fresh]
      · simp [same, Ne.symm same]

theorem stop_all_pending (ws : List Waiter) (key : CallerKey) :
    (pendingIds ws key).foldl (fun ws w => ws.modify w Waiter.stop) ws =
      ws.map (stopIf (· = key)) := by
  apply List.ext_getElem?
  intro i
  rw [getElem?_stop_all (nodup_pendingIds ws key), List.getElem?_map]
  cases found : ws[i]? with
  | none => simp
  | some w =>
      simp only [mem_pendingIds, found, Option.some.injEq, exists_eq_left', Option.map_some, stopIf,
        and_comm, apply_ite some]

def emptied (s : Scheduler) (key : CallerKey) (subj : SubjectState) (cs : SessionState) :
    Scheduler :=
  { s with
    waiters := cs.queue.foldl (fun ws w => ws.modify w Waiter.stop) s.waiters
    subjects := s.subjects.insert key.subject { subj with
      sessions := subj.sessions.insert key.session { cs with queue := [] } } }

def drainOne (s : Scheduler) (key : CallerKey) : Scheduler :=
  match s.subjects.lookup key.subject with
  | none => s
  | some subj =>
      match subj.sessions.lookup key.session with
      | none => s
      | some cs => (emptied s key subj cs).pruneSessionLocked key

theorem map_stopIf_of_no_queue {s : Scheduler} (ok : Ok s) {p : CallerKey → Prop}
    [DecidablePred p] (none : ∀ key, p key → (s.session key).queue = []) :
    s.waiters.map (stopIf p) = s.waiters := by
  conv_rhs => rw [← List.map_id s.waiters]
  apply List.map_congr_left
  intro w member
  refine if_neg fun stopped => ?_
  obtain ⟨i, found⟩ := List.mem_iff_getElem?.mp member
  have queued : i ∈ (s.session w.key).queue := by
    rw [ok.queue]
    exact mem_pendingIds.mpr ⟨w, found, rfl, stopped.1⟩
  simp [none w.key stopped.2] at queued

section DrainOne

variable {s : Scheduler} (ok : Ok s) (key : CallerKey)
include ok

theorem stopped_queue {subj : SubjectState} {cs : SessionState}
    (found : s.subjects.lookup key.subject = some subj)
    (entry : subj.sessions.lookup key.session = some cs) :
    cs.queue.foldl (fun ws w => ws.modify w Waiter.stop) s.waiters =
      s.waiters.map (stopIf (· = key)) := by
  rw [← stop_all_pending, ← ok.queue, session_of_lookup found entry]

theorem drainOne_waiters : (drainOne s key).waiters = s.waiters.map (stopIf (· = key)) := by
  unfold drainOne
  cases found : s.subjects.lookup key.subject with
  | none =>
      refine (map_stopIf_of_no_queue ok ?_).symm
      rintro _ rfl
      rw [session_of_no_subject found]
      rfl
  | some subj =>
      cases entry : subj.sessions.lookup key.session with
      | none =>
          simp only [entry]
          refine (map_stopIf_of_no_queue ok ?_).symm
          rintro _ rfl
          rw [session_of_no_session found entry]
          rfl
      | some cs =>
          simp only [entry, prune_waiters]
          exact stopped_queue ok key found entry

theorem emptied_accounting {subj : SubjectState} {cs : SessionState}
    (found : s.subjects.lookup key.subject = some subj)
    (entry : subj.sessions.lookup key.session = some cs) :
    Accounting (· = key) (emptied s key subj cs) := by
  have own := session_of_lookup found entry
  have waiters := stopped_queue ok key found entry
  refine Accounting.store ok rfl (by rw [subject_eq found]) ?_ ?_ ?_ ?_ ok.slots
  · exact ok.outer.overwrite found (.refl _) rfl
  · exact (ok.inner _ _ found).overwrite entry (.refl _) rfl
  · intro k
    simp only [emptied]
    rw [waiters, pendingIds_map_stopIf]
    split_ifs with same
    · rfl
    · exact ok.queue k
  · intro k
    simp only [emptied]
    rw [waiters, holders_map_stopIf, ← ok.held]
    split_ifs with same
    · rw [same, own]
    · rfl

theorem drainOne_ok : Ok (drainOne s key) := by
  unfold drainOne
  cases found : s.subjects.lookup key.subject with
  | none => exact ok
  | some subj =>
      cases entry : subj.sessions.lookup key.session with
      | none =>
          simp only [entry]
          exact ok
      | some cs =>
          simp only [entry]
          exact pruneSessionLocked_ok (emptied_accounting ok key found entry)

end DrainOne

def commit (s : Scheduler) (k : String) (acc : List Waiter × SubjectState) : Scheduler :=
  if acc.2.active then { s with waiters := acc.1, subjects := s.subjects.insert k acc.2 }
  else { s with
    waiters := acc.1
    subjects := s.subjects.erase k
    rotor := s.rotor.remove k }

theorem active_insert (subj : SubjectState) (m : String) (cs : SessionState) (n : Nat)
    (rotor : Rotor) : SubjectState.active ⟨subj.sessions.insert m cs, rotor, n⟩ = true := by
  simp [SubjectState.active, AList.size_insert]

-- The loop removes a subject after its last session; a prune does so with it.
theorem commit_drainSession (s : Scheduler) (k m : String) (acc : List Waiter × SubjectState) :
    commit s k (Scheduler.drainSession acc m) = drainOne (commit s k acc) ⟨k, m⟩ := by
  obtain ⟨ws, subj⟩ := acc
  cases active : subj.active with
  | false => simp [Scheduler.drainSession, drainOne, commit, active, sessions_empty active]
  | true =>
      cases entry : subj.sessions.lookup m with
      | none => simp [Scheduler.drainSession, drainOne, commit, active, entry]
      | some cs =>
          cases remains : SessionState.active ⟨[], cs.inFlight⟩ with
          | true =>
              simp [Scheduler.drainSession, drainOne, emptied, commit, active, entry, remains,
                Scheduler.pruneSessionLocked, active_insert]
          | false =>
              simp [Scheduler.drainSession, drainOne, emptied, commit, active, entry, remains,
                Scheduler.pruneSessionLocked, AList.erase_insert]

theorem commit_foldl (s : Scheduler) (k : String) (ms : List String)
    (acc : List Waiter × SubjectState) : commit s k (ms.foldl Scheduler.drainSession acc) =
      (ms.map (CallerKey.mk k)).foldl drainOne (commit s k acc) := by
  induction ms generalizing acc with
  | nil => rfl
  | cons m ms ih => rw [List.foldl_cons, ih, commit_drainSession, List.map_cons, List.foldl_cons]

theorem drainOne_foldl {s : Scheduler} (ok : Ok s) (keys : List CallerKey) :
    Ok (keys.foldl drainOne s) ∧
      (keys.foldl drainOne s).waiters = s.waiters.map (stopIf (· ∈ keys)) := by
  induction keys generalizing s with
  | nil =>
      refine ⟨ok, (map_stopIf_of_no_queue ok ?_).symm⟩
      intro key member
      cases member
  | cons key keys ih =>
      obtain ⟨final, waiters⟩ := ih (drainOne_ok ok key)
      refine ⟨final, ?_⟩
      rw [List.foldl_cons, waiters, drainOne_waiters ok, List.map_map]
      apply List.map_congr_left
      intro w _
      simp only [Function.comp_apply, stopIf_stopIf, List.mem_cons, or_comm]

theorem commit_ok {s : Scheduler} (ok : Ok s) {k : String} {subj : SubjectState}
    (found : s.subjects.lookup k = some subj) : Ok (commit s k (s.waiters, subj)) := by
  have active : subj.active = true := by simpa [SubjectState.active] using ok.occupied k subj found
  have same (j : String) : (s.subjects.insert k subj).lookup j = s.subjects.lookup j := by
    rw [AList.lookup_insert_eq]
    split_ifs with here
    · rw [here, found]
    · rfl
  have sessions (key : CallerKey) :
      { s with subjects := s.subjects.insert k subj }.session key = s.session key := by
    simp only [Scheduler.session, Scheduler.subject, same]
  rw [commit, if_pos active]
  refine ⟨ok.outer.overwrite found (.refl _) rfl, ?_, ?_, ?_, ?_, ?_, ok.slots⟩
  · intro j subj' found'
    exact ok.inner j subj' (same j ▸ found')
  · intro key
    exact (congrArg _ (sessions key)).trans (ok.queue key)
  · intro key
    exact (congrArg _ (sessions key)).trans (ok.held key)
  · intro j subj' found'
    exact ok.occupied j subj' (same j ▸ found')
  · intro j subj' found'
    exact ok.busy j subj' (same j ▸ found')

def keysOf (entry : String × List String) : List CallerKey :=
  entry.2.map (CallerKey.mk entry.1)

theorem drainSubject_eq {s : Scheduler} {k : String} {ms : List String} {subj : SubjectState}
    (found : s.subjects.lookup k = some subj) : s.drainSubject (k, ms) =
      (keysOf (k, ms)).foldl drainOne (commit s k (s.waiters, subj)) := by
  rw [keysOf, ← commit_foldl]
  simp only [Scheduler.drainSubject, found]
  rfl

theorem drainSubject_ok {s : Scheduler} (ok : Ok s) (entry : String × List String) :
    Ok (s.drainSubject entry) ∧
      (s.drainSubject entry).waiters = s.waiters.map (stopIf (· ∈ keysOf entry)) := by
  obtain ⟨k, ms⟩ := entry
  cases found : s.subjects.lookup k with
  | none =>
      simp only [Scheduler.drainSubject, found]
      refine ⟨ok, (map_stopIf_of_no_queue ok ?_).symm⟩
      intro key member
      obtain ⟨m, -, rfl⟩ := List.mem_map.mp member
      rw [session_of_no_subject found]
      rfl
  | some subj =>
      have start := commit_ok ok found
      have waiters : (commit s k (s.waiters, subj)).waiters = s.waiters := by
        unfold commit
        split_ifs <;> rfl
      obtain ⟨final, stopped⟩ := drainOne_foldl start (keysOf (k, ms))
      rw [drainSubject_eq found]
      exact ⟨final, stopped.trans (congrArg _ waiters)⟩

theorem drain_ok {s : Scheduler} (ok : Ok s) (order : List (String × List String)) :
    Ok (s.drain order) ∧
      (s.drain order).waiters = s.waiters.map (stopIf (· ∈ order.flatMap keysOf)) := by
  unfold Scheduler.drain
  induction order generalizing s with
  | nil =>
      refine ⟨ok, (map_stopIf_of_no_queue ok ?_).symm⟩
      intro key member
      cases member
  | cons entry order ih =>
      obtain ⟨first, stopped⟩ := drainSubject_ok ok entry
      obtain ⟨final, waiters⟩ := ih first
      refine ⟨final, ?_⟩
      rw [List.foldl_cons, waiters, stopped, List.map_map]
      apply List.map_congr_left
      intro w _
      simp only [Function.comp_apply, stopIf_stopIf, List.flatMap_cons, List.mem_append, or_comm]

theorem ranges_over_queued {s : Scheduler} (ok : Ok s) {order : List (String × List String)}
    (ranges : s.RangesOver order) {w : Waiter} (member : w ∈ s.waiters)
    (waiting : pending w = true) : w.key ∈ order.flatMap keysOf := by
  obtain ⟨i, known⟩ := List.mem_iff_getElem?.mp member
  have queued : i ∈ (s.session w.key).queue := by
    rw [ok.queue]
    exact mem_pendingIds.mpr ⟨w, known, rfl, waiting⟩
  cases found : s.subjects.lookup w.key.subject with
  | none => simp [session_of_no_subject found, SessionState.new] at queued
  | some subj =>
      cases entry : subj.sessions.lookup w.key.session with
      | none => simp [session_of_no_session found entry, SessionState.new] at queued
      | some cs =>
          have outer : w.key.subject ∈ order.map Prod.fst := by
            rw [ranges.1.mem_iff, ← AList.mem_keys, ← AList.lookup_isSome, found]
            rfl
          obtain ⟨⟨k, ms⟩, ranged, same⟩ := List.mem_map.mp outer
          have inner : w.key.session ∈ ms := by
            rw [(ranges.2 _ ranged).mem_iff, ← AList.mem_keys, ← AList.lookup_isSome,
              show k = w.key.subject from same, subject_eq found, entry]
            rfl
          refine List.mem_flatMap.mpr ⟨(k, ms), ranged, List.mem_map.mpr ⟨_, inner, ?_⟩⟩
          rw [show k = w.key.subject from same]

theorem drain_waiters {s : Scheduler} (ok : Ok s) {order : List (String × List String)}
    (ranges : s.RangesOver order) :
    (s.drain order).waiters = s.waiters.map (stopIf fun _ => True) := by
  rw [(drain_ok ok order).2]
  apply List.map_congr_left
  intro w member
  by_cases waiting : pending w = true
  · simp only [stopIf, waiting, ranges_over_queued ok ranges member waiting]
  · simp [stopIf, waiting]

end BrokerMcp.Proof.Scheduler
