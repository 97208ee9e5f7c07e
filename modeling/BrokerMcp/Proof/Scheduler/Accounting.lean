import BrokerMcp.Proof.Scheduler.Waiters

/-!
# The accounting invariant

Both levels of the scheduler are a table of entries, a rotor over the same keys and a total of the
entries' slots (`Accounted`). `Accounting` puts the two levels together with the semaphore and the
waiters. Its argument names the sessions that may be idle: between an update and the prune that
follows it there is one, otherwise none (`Ok`).
-/

namespace BrokerMcp.Proof.Scheduler
open Resilience

structure Accounted {ν : Type} (weight : ν → Nat) (rotor : Rotor)
    (table : AList fun _ : String => ν) (inFlight : Nat) : Prop where
  nodup : rotor.order.Nodup
  covers : ∀ k, k ∈ rotor.order ↔ k ∈ table
  total : inFlight = table.total weight

section Levels

variable {ν : Type} {weight : ν → Nat} {rotor : Rotor} {table : AList fun _ : String => ν}
  {inFlight : Nat} {k : String}

theorem keys_nodup (accounted : Accounted weight rotor table inFlight) : rotor.keys.Nodup :=
  List.nodup_rotate.mp accounted.nodup

theorem Accounted.overwrite (accounted : Accounted weight rotor table inFlight) {v w : ν} {n : Nat}
    {rotor' : Rotor} (found : table.lookup k = some v) (same : rotor'.order.Perm rotor.order)
    (balance : n + weight v = inFlight + weight w) :
    Accounted weight rotor' (table.insert k w) n where
  nodup := same.nodup_iff.mpr accounted.nodup
  covers j := by
    rw [same.mem_iff, accounted.covers, AList.mem_insert]
    constructor
    · exact .inr
    · rintro (rfl | member)
      · exact AList.lookup_isSome.mp (by simp [found])
      · exact member
  total := by
    have change := AList.total_insert_of_lookup found w weight
    have before := accounted.total
    omega

theorem Accounted.add (accounted : Accounted weight rotor table inFlight)
    (absent : table.lookup k = none) (w : ν) :
    Accounted weight (rotor.insert k) (table.insert k w) (inFlight + weight w) where
  nodup := by
    rw [Rotor.order_insert]
    have fresh : k ∉ rotor.order := fun h =>
      AList.lookup_eq_none.mp absent ((accounted.covers k).mp h)
    simpa using accounted.nodup.concat fresh
  covers j := by
    rw [Rotor.order_insert, AList.mem_insert, List.mem_append, List.mem_singleton,
      accounted.covers, or_comm]
  total := by rw [AList.total_insert_of_none absent, ← accounted.total]

theorem Accounted.drop (accounted : Accounted weight rotor table inFlight) {v : ν}
    (found : table.lookup k = some v) (idle : weight v = 0) :
    Accounted weight (rotor.remove k) (table.erase k) inFlight where
  nodup := by
    rw [Rotor.order_remove (keys_nodup accounted)]
    exact accounted.nodup.erase k
  covers j := by
    rw [Rotor.order_remove (keys_nodup accounted), accounted.nodup.mem_erase_iff,
      accounted.covers, AList.mem_erase]
  total := by
    have change := AList.total_erase found weight
    have before := accounted.total
    omega

theorem order_advancePast_perm (rotor : Rotor) (i : Nat) :
    (rotor.advancePast i).order.Perm rotor.order := by
  rw [Rotor.order_advancePast]
  exact List.rotate_perm _ _

end Levels

structure Slots (sem : Semaphore) (limit inFlight : Nat) : Prop where
  len : sem.len = inFlight
  free : sem.wedged = false
  bound : inFlight ≤ limit
  cap : limit ≤ sem.cap
  positive : 1 ≤ limit

theorem Slots.receive {sem : Semaphore} {limit n : Nat} (slots : Slots sem limit n) (held : 0 < n) :
    Slots sem.receive limit (n - 1) := by
  obtain ⟨len, free, bound, cap, positive⟩ := slots
  have nonempty : 0 < sem.len := by omega
  rw [Semaphore.receive, if_pos nonempty]
  exact ⟨congrArg (· - 1) len, free, by omega, cap, positive⟩

theorem Slots.send {sem : Semaphore} {limit n : Nat} (slots : Slots sem limit n) (room : n < limit) :
    Slots sem.send limit (n + 1) := by
  obtain ⟨len, free, bound, cap, positive⟩ := slots
  have space : sem.len < sem.cap := by omega
  rw [Semaphore.send, if_pos space]
  exact ⟨congrArg (· + 1) len, free, room, cap, positive⟩

structure Accounting (idle : CallerKey → Prop) (s : Scheduler) : Prop where
  outer : Accounted SubjectState.inFlight s.rotor s.subjects s.inFlight
  inner : ∀ k subj, s.subjects.lookup k = some subj →
    Accounted SessionState.inFlight subj.rotor subj.sessions subj.inFlight
  queue : ∀ key, (s.session key).queue = pendingIds s.waiters key
  held : ∀ key, (s.session key).inFlight = holders s.waiters key
  occupied : ∀ k subj, s.subjects.lookup k = some subj → 0 < subj.sessions.size
  busy : ∀ k subj, s.subjects.lookup k = some subj → ∀ m cs, subj.sessions.lookup m = some cs →
    ¬ idle ⟨k, m⟩ → cs.active = true
  slots : Slots s.sem s.limit s.inFlight

def Ok : Scheduler → Prop := Accounting fun _ => False

theorem subject_eq {s : Scheduler} {k : String} {subj : SubjectState}
    (found : s.subjects.lookup k = some subj) : s.subject k = subj := by
  simp [Scheduler.subject, found]

theorem session_eq {subj : SubjectState} {m : String} {cs : SessionState}
    (found : subj.sessions.lookup m = some cs) : subj.session m = cs := by
  simp [SubjectState.session, found]

theorem session_of_no_subject {s : Scheduler} {key : CallerKey}
    (none : s.subjects.lookup key.subject = none) : s.session key = .new := by
  simp [Scheduler.session, Scheduler.subject, none, SubjectState.session, SubjectState.new]

theorem session_of_no_session {s : Scheduler} {key : CallerKey} {subj : SubjectState}
    (found : s.subjects.lookup key.subject = some subj)
    (none : subj.sessions.lookup key.session = none) : s.session key = .new := by
  simp [Scheduler.session, subject_eq found, SubjectState.session, none]

theorem session_of_lookup {s : Scheduler} {key : CallerKey} {subj : SubjectState}
    {cs : SessionState} (found : s.subjects.lookup key.subject = some subj)
    (entry : subj.sessions.lookup key.session = some cs) : s.session key = cs := by
  rw [Scheduler.session, subject_eq found, session_eq entry]

theorem newScheduler_ok (cap : Nat) (positive : 1 ≤ cap) (enabled : Bool) (limit : Int) :
    Ok (newScheduler ⟨cap, 0, false⟩ enabled limit) where
  outer := ⟨by simp [newScheduler], by simp [newScheduler], rfl⟩
  inner := by simp [newScheduler]
  queue key := rfl
  held key := rfl
  occupied := by simp [newScheduler]
  busy := by simp [newScheduler]
  slots := by
    refine ⟨rfl, rfl, Nat.zero_le _, ?_, ?_⟩
    all_goals
      simp only [newScheduler]
      split_ifs <;> omega

section Store

variable {s s' : Scheduler} {key : CallerKey} {subj : SubjectState} {cs : SessionState}

theorem session_store (subjects : s'.subjects = s.subjects.insert key.subject subj)
    (sessions : subj.sessions = (s.subject key.subject).sessions.insert key.session cs)
    (k : CallerKey) : s'.session k = if k = key then cs else s.session k := by
  obtain ⟨k, m⟩ := k
  obtain ⟨k', m'⟩ := key
  simp only [Scheduler.session, Scheduler.subject, subjects, AList.lookup_insert_eq,
    CallerKey.mk.injEq]
  by_cases sameSubject : k = k'
  · subst sameSubject
    simp only [↓reduceIte, Option.getD_some, SubjectState.session, sessions,
      AList.lookup_insert_eq, true_and]
    split_ifs <;> rfl
  · simp [sameSubject]

theorem lookup_subject_sessions {m : String} (found : (s.subject key.subject).sessions.lookup m = some cs) :
    ∃ subj, s.subjects.lookup key.subject = some subj ∧ subj.sessions.lookup m = some cs := by
  cases h : s.subjects.lookup key.subject with
  | none => simp [Scheduler.subject, h, SubjectState.new] at found
  | some subj =>
      rw [subject_eq h] at found
      exact ⟨subj, rfl, found⟩

/-- Every operation writes one session of one subject; this is what it has to show. -/
theorem Accounting.store (ok : Ok s)
    (subjects : s'.subjects = s.subjects.insert key.subject subj)
    (sessions : subj.sessions = (s.subject key.subject).sessions.insert key.session cs)
    (outer : Accounted SubjectState.inFlight s'.rotor s'.subjects s'.inFlight)
    (inner : Accounted SessionState.inFlight subj.rotor subj.sessions subj.inFlight)
    (queue : ∀ k, (if k = key then cs else s.session k).queue = pendingIds s'.waiters k)
    (held : ∀ k, (if k = key then cs else s.session k).inFlight = holders s'.waiters k)
    (slots : Slots s'.sem s'.limit s'.inFlight) : Accounting (· = key) s' where
  outer := outer
  inner k subj' found := by
    rw [subjects, AList.lookup_insert_eq] at found
    split_ifs at found with same
    · exact Option.some.inj found ▸ inner
    · exact ok.inner k subj' found
  queue k := by rw [session_store subjects sessions, queue]
  held k := by rw [session_store subjects sessions, held]
  occupied k subj' found := by
    rw [subjects, AList.lookup_insert_eq] at found
    split_ifs at found with same
    · obtain rfl := Option.some.inj found
      rw [sessions, AList.size_insert]
      omega
    · exact ok.occupied k subj' found
  busy k subj' found m cs' entry notIdle := by
    rw [subjects, AList.lookup_insert_eq] at found
    split_ifs at found with same
    · obtain rfl := Option.some.inj found
      subst same
      rw [sessions, AList.lookup_insert_eq] at entry
      split_ifs at entry with sameSession
      · subst sameSession
        exact absurd rfl notIdle
      · obtain ⟨old, oldFound, oldEntry⟩ := lookup_subject_sessions entry
        exact ok.busy _ old oldFound m cs' oldEntry (fun h => h)
    · exact ok.busy k subj' found m cs' entry (fun h => h)
  slots := slots

end Store

theorem session_idle {cs : SessionState} (idle : cs.active = false) : cs = .new := by
  obtain ⟨queue, inFlight⟩ := cs
  simpa [SessionState.active, SessionState.new] using idle

theorem sessions_empty {subj : SubjectState} (idle : subj.active = false) :
    subj.sessions = ∅ := by
  have none : subj.sessions.entries = [] := by
    simpa [SubjectState.active, AList.size] using idle
  exact AList.ext none

theorem Accounting.settle {s : Scheduler} {key : CallerKey} (accounting : Accounting (· = key) s)
    (active : ∀ subj cs, s.subjects.lookup key.subject = some subj →
      subj.sessions.lookup key.session = some cs → cs.active = true) : Ok s :=
  { accounting with
    busy := by
      intro k subj found m cs entry _
      by_cases same : (⟨k, m⟩ : CallerKey) = key
      · subst same
        exact active subj cs found entry
      · exact accounting.busy k subj found m cs entry same }

section Prune

variable {s : Scheduler} {key : CallerKey} {subj : SubjectState} {cs : SessionState}

-- The subject without the session that is pruned.
def pruned (subj : SubjectState) (m : String) : SubjectState :=
  { subj with sessions := subj.sessions.erase m, rotor := subj.rotor.remove m }

theorem pruned_session (entry : subj.sessions.lookup key.session = some cs)
    (idle : cs.active = false) (m : String) : (pruned subj key.session).session m = subj.session m := by
  simp only [pruned, SubjectState.session, AList.lookup_erase_eq]
  split_ifs with same
  · rw [same, entry, session_idle idle]
    rfl
  · rfl

theorem prune_session (found : s.subjects.lookup key.subject = some subj)
    (entry : subj.sessions.lookup key.session = some cs) (idle : cs.active = false)
    (occupied : (pruned subj key.session).active = true) : s.pruneSessionLocked key =
      { s with subjects := s.subjects.insert key.subject (pruned subj key.session) } := by
  simp only [Scheduler.pruneSessionLocked, found, entry, idle]
  exact if_pos occupied

theorem prune_subject (found : s.subjects.lookup key.subject = some subj)
    (entry : subj.sessions.lookup key.session = some cs) (idle : cs.active = false)
    (vacated : (pruned subj key.session).active = false) : s.pruneSessionLocked key =
      { s with
        subjects := s.subjects.erase key.subject
        rotor := s.rotor.remove key.subject } := by
  simp only [Scheduler.pruneSessionLocked, found, entry, idle]
  change (if (pruned subj key.session).active = true then _ else _) = _
  rw [vacated]
  rfl

theorem prune_frame (s : Scheduler) (key : CallerKey) :
    ∃ subjects rotor, s.pruneSessionLocked key = { s with subjects, rotor } := by
  cases found : s.subjects.lookup key.subject with
  | none => exact ⟨s.subjects, s.rotor, by simp [Scheduler.pruneSessionLocked, found]⟩
  | some subj =>
      cases entry : subj.sessions.lookup key.session with
      | none => exact ⟨s.subjects, s.rotor, by simp [Scheduler.pruneSessionLocked, found, entry]⟩
      | some cs =>
          cases idle : cs.active with
          | true =>
              exact ⟨s.subjects, s.rotor,
                by simp [Scheduler.pruneSessionLocked, found, entry, idle]⟩
          | false =>
              cases occupied : (pruned subj key.session).active with
              | true => exact ⟨_, s.rotor, prune_session found entry idle occupied⟩
              | false => exact ⟨_, _, prune_subject found entry idle occupied⟩

theorem prune_waiters (s : Scheduler) (key : CallerKey) :
    (s.pruneSessionLocked key).waiters = s.waiters := by
  obtain ⟨subjects, rotor, same⟩ := prune_frame s key
  rw [same]

theorem session_prune (s : Scheduler) (key k : CallerKey) :
    (s.pruneSessionLocked key).session k = s.session k := by
  cases found : s.subjects.lookup key.subject with
  | none => simp [Scheduler.pruneSessionLocked, found]
  | some subj =>
      cases entry : subj.sessions.lookup key.session with
      | none => simp [Scheduler.pruneSessionLocked, found, entry]
      | some cs =>
          cases idle : cs.active with
          | true => simp [Scheduler.pruneSessionLocked, found, entry, idle]
          | false =>
              have same := pruned_session entry idle
              obtain ⟨k, m⟩ := k
              obtain ⟨k', m'⟩ := key
              have read : k = k' → s.session ⟨k, m⟩ = (pruned subj m').session m := by
                rintro rfl
                rw [same, Scheduler.session, subject_eq found]
              cases occupied : (pruned subj m').active with
              | true =>
                  rw [prune_session found entry idle occupied]
                  by_cases sameSubject : k = k'
                  · rw [read sameSubject]
                    simp [Scheduler.session, Scheduler.subject, AList.lookup_insert_eq, sameSubject]
                  · simp [Scheduler.session, Scheduler.subject, sameSubject]
              | false =>
                  rw [prune_subject found entry idle occupied]
                  by_cases sameSubject : k = k'
                  · rw [read sameSubject]
                    simp [Scheduler.session, Scheduler.subject, AList.lookup_erase_eq, sameSubject,
                      SubjectState.session, sessions_empty occupied, SubjectState.new]
                  · simp [Scheduler.session, Scheduler.subject, sameSubject]

theorem pruned_accounted (accounting : Accounting (· = key) s)
    (found : s.subjects.lookup key.subject = some subj)
    (entry : subj.sessions.lookup key.session = some cs) (idle : cs.active = false) :
    Accounted SessionState.inFlight (pruned subj key.session).rotor
      (pruned subj key.session).sessions subj.inFlight := by
  apply (accounting.inner _ _ found).drop entry
  rw [session_idle idle]
  rfl

theorem pruned_busy (accounting : Accounting (· = key) s)
    (found : s.subjects.lookup key.subject = some subj) :
    ∀ m cs, (pruned subj key.session).sessions.lookup m = some cs → cs.active = true := by
  intro m cs entry
  simp only [pruned, AList.lookup_erase_eq] at entry
  split_ifs at entry with same
  apply accounting.busy _ _ found m cs entry
  exact fun h => same (congrArg CallerKey.session h)

theorem prune_session_ok (accounting : Accounting (· = key) s)
    (found : s.subjects.lookup key.subject = some subj)
    (entry : subj.sessions.lookup key.session = some cs) (idle : cs.active = false)
    (occupied : (pruned subj key.session).active = true) : Ok (s.pruneSessionLocked key) := by
  have queue := accounting.queue
  have held := accounting.held
  simp only [← session_prune s key, prune_session found entry idle occupied] at queue held ⊢
  refine ⟨accounting.outer.overwrite found (.refl _) rfl, ?_, queue, held, ?_, ?_, accounting.slots⟩
  all_goals
    intro k subj' found'
    rw [AList.lookup_insert_eq] at found'
    split_ifs at found' with same
  · exact Option.some.inj found' ▸ pruned_accounted accounting found entry idle
  · exact accounting.inner k subj' found'
  · rw [← Option.some.inj found']
    simpa [SubjectState.active] using occupied
  · exact accounting.occupied k subj' found'
  · rw [← Option.some.inj found']
    exact fun m cs' entry' _ => pruned_busy accounting found m cs' entry'
  · intro m cs' entry' _
    apply accounting.busy k subj' found' m cs' entry'
    exact fun h => same (congrArg CallerKey.subject h)

theorem prune_subject_ok (accounting : Accounting (· = key) s)
    (found : s.subjects.lookup key.subject = some subj)
    (entry : subj.sessions.lookup key.session = some cs) (idle : cs.active = false)
    (vacated : (pruned subj key.session).active = false) : Ok (s.pruneSessionLocked key) := by
  have queue := accounting.queue
  have held := accounting.held
  have none : subj.inFlight = 0 := by
    rw [(pruned_accounted accounting found entry idle).total, sessions_empty vacated]
    rfl
  simp only [← session_prune s key, prune_subject found entry idle vacated] at queue held ⊢
  refine ⟨accounting.outer.drop found none, ?_, queue, held, ?_, ?_, accounting.slots⟩
  all_goals
    intro k subj' found'
    rw [AList.lookup_erase_eq] at found'
    split_ifs at found' with same
  · exact accounting.inner k subj' found'
  · exact accounting.occupied k subj' found'
  · intro m cs' entry' _
    apply accounting.busy k subj' found' m cs' entry'
    exact fun h => same (congrArg CallerKey.subject h)

theorem pruneSessionLocked_ok (accounting : Accounting (· = key) s) :
    Ok (s.pruneSessionLocked key) := by
  cases found : s.subjects.lookup key.subject with
  | none =>
      rw [Scheduler.pruneSessionLocked, found]
      exact accounting.settle fun subj cs h => by simp [found] at h
  | some subj =>
      cases entry : subj.sessions.lookup key.session with
      | none =>
          simp only [Scheduler.pruneSessionLocked, found, entry]
          refine accounting.settle fun subj' cs h h' => ?_
          rw [found] at h
          obtain rfl := Option.some.inj h
          simp [entry] at h'
      | some cs =>
          cases idle : cs.active with
          | true =>
              simp only [Scheduler.pruneSessionLocked, found, entry, idle]
              refine accounting.settle fun subj' cs' h h' => ?_
              rw [found] at h
              obtain rfl := Option.some.inj h
              rw [entry] at h'
              obtain rfl := Option.some.inj h'
              exact idle
          | false =>
              cases occupied : (pruned subj key.session).active with
              | true => exact prune_session_ok accounting found entry idle occupied
              | false => exact prune_subject_ok accounting found entry idle occupied

end Prune

end BrokerMcp.Proof.Scheduler
