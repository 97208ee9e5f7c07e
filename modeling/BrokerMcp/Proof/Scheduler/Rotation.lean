import BrokerMcp.Library.Ring
import BrokerMcp.Proof.Scheduler.Eligibility
import BrokerMcp.Proof.Scheduler.Invariant

/-!
# The rotation is a round-robin ring

Seen from its cursor, the rotor of the scheduler and the rotor of each subject are round-robin
rings: `Enqueue` adds at the back, pruning removes, and a grant serves the first member that can be
served. A subject that is not in the map has an empty ring.
-/

namespace BrokerMcp.Proof.Scheduler
open Resilience Transition RoundRobin

structure Shrunk (s s' : Scheduler) : Prop where
  outer : s'.rotor.order.Sublist s.rotor.order
  inner : ∀ k, (s'.subject k).rotor.order.Sublist (s.subject k).rotor.order

theorem Shrunk.refl (s : Scheduler) : Shrunk s s :=
  ⟨List.Sublist.refl _, fun _ => List.Sublist.refl _⟩

theorem Shrunk.trans {s t u : Scheduler} (first : Shrunk s t) (second : Shrunk t u) : Shrunk s u :=
  ⟨second.outer.trans first.outer, fun k => (second.inner k).trans (first.inner k)⟩

theorem subject_insert {s s' : Scheduler} {k : String} {subj : SubjectState}
    (subjects : s'.subjects = s.subjects.insert k subj) (j : String) :
    s'.subject j = if j = k then subj else s.subject j := by
  simp only [Scheduler.subject, subjects, AList.lookup_insert_eq]
  split_ifs <;> rfl

theorem subject_erase {s s' : Scheduler} {k : String} (subjects : s'.subjects = s.subjects.erase k)
    (j : String) : s'.subject j = if j = k then .new else s.subject j := by
  simp only [Scheduler.subject, subjects, AList.lookup_erase_eq]
  split_ifs <;> rfl

theorem shrunk_of_same {s s' : Scheduler} (subjects : s'.subjects = s.subjects)
    (rotor : s'.rotor = s.rotor) : Shrunk s s' := by
  constructor
  · rw [rotor]
  · intro k
    rw [Scheduler.subject, subjects]
    exact List.Sublist.refl _

theorem shrunk_of_store {s s' : Scheduler} {k : String} {subj : SubjectState}
    (subjects : s'.subjects = s.subjects.insert k subj) (rotor : s'.rotor = s.rotor)
    (inner : subj.rotor = (s.subject k).rotor) : Shrunk s s' := by
  constructor
  · rw [rotor]
  · intro j
    rw [subject_insert subjects]
    split_ifs with same
    · rw [inner, same]
    · exact List.Sublist.refl _

theorem prune_shrunk {idle : CallerKey → Prop} {s : Scheduler} (accounting : Accounting idle s)
    (key : CallerKey) : Shrunk s (s.pruneSessionLocked key) := by
  cases found : s.subjects.lookup key.subject with
  | none =>
      simp only [Scheduler.pruneSessionLocked, found]
      exact .refl s
  | some subj =>
      cases entry : subj.sessions.lookup key.session with
      | none =>
          simp only [Scheduler.pruneSessionLocked, found, entry]
          exact .refl s
      | some cs =>
          cases active : cs.active with
          | true =>
              simp only [Scheduler.pruneSessionLocked, found, entry, active]
              exact .refl s
          | false =>
              cases occupied : (pruned subj key.session).active with
              | true =>
                  rw [prune_session found entry active occupied]
                  refine ⟨List.Sublist.refl _, fun k => ?_⟩
                  rw [subject_insert rfl]
                  split_ifs with same
                  · have inner := keys_nodup (accounting.inner _ _ found)
                    rw [same, subject_eq found, pruned, Rotor.order_remove inner]
                    exact List.erase_sublist
                  · exact List.Sublist.refl _
              | false =>
                  rw [prune_subject found entry active occupied]
                  constructor
                  · rw [Rotor.order_remove (keys_nodup accounting.outer)]
                    exact List.erase_sublist
                  · intro k
                    rw [subject_erase rfl]
                    split_ifs
                    · exact List.nil_sublist _
                    · exact List.Sublist.refl _

section Operations

variable {s : Scheduler} {w : Nat} {waiter : Waiter}

theorem releaseLocked_shrunk (ok : Ok s) (found : s.waiters[w]? = some waiter)
    (holds : holding waiter = true) : Shrunk s
      ({ s with waiters := s.waiters.modify w Waiter.resolve }.releaseLocked waiter.key) := by
  obtain ⟨subj, cs, subject, entry, counted⟩ := holder_held ok found holds
  rw [releaseLocked_eq subject entry counted]
  have stored : Shrunk s (released s w waiter.key subj cs) :=
    shrunk_of_store rfl rfl (by rw [subject_eq subject])
  exact stored.trans (prune_shrunk (released_accounting ok found holds subject entry counted) _)

theorem removeFromQueueLocked_shrunk (ok : Ok s) (found : s.waiters[w]? = some waiter)
    (free : holding waiter = false) : Shrunk s
      ({ s with waiters := s.waiters.modify w Waiter.resolve }.removeFromQueueLocked w
        waiter.key) := by
  cases subject : s.subjects.lookup waiter.key.subject with
  | none =>
      simp only [Scheduler.removeFromQueueLocked, subject]
      exact shrunk_of_same rfl rfl
  | some subj =>
      cases entry : subj.sessions.lookup waiter.key.session with
      | none =>
          simp only [Scheduler.removeFromQueueLocked, subject, entry]
          exact shrunk_of_same rfl rfl
      | some cs =>
          rw [removeFromQueueLocked_eq subject entry]
          have stored : Shrunk s (unqueued s w waiter.key subj cs) :=
            shrunk_of_store rfl rfl (by rw [subject_eq subject]; rfl)
          exact stored.trans (prune_shrunk (unqueued_accounting ok found free subject entry) _)

theorem abandon_shrunk (ok : Ok s) (found : s.waiters[w]? = some waiter) :
    Shrunk s (s.abandon w waiter).1 := by
  unfold Scheduler.abandon
  split_ifs with settled granted
  · exact .refl s
  · exact releaseLocked_shrunk ok found (by simp [holding, granted, settled])
  · exact removeFromQueueLocked_shrunk ok found (by simp [holding, granted])

theorem release_shrunk (ok : Ok s) (found : s.waiters[w]? = some waiter) :
    Shrunk s (s.release w waiter).1 := by
  unfold Scheduler.release
  split_ifs with ignored
  · exact .refl s
  · apply releaseLocked_shrunk ok found
    simpa [holding, and_comm] using ignored

theorem drainOne_shrunk (ok : Ok s) (key : CallerKey) : Shrunk s (drainOne s key) := by
  unfold drainOne
  cases found : s.subjects.lookup key.subject with
  | none => exact .refl s
  | some subj =>
      cases entry : subj.sessions.lookup key.session with
      | none =>
          simp only [entry]
          exact .refl s
      | some cs =>
          simp only [entry]
          have stored : Shrunk s (emptied s key subj cs) :=
            shrunk_of_store rfl rfl (by rw [subject_eq found])
          exact stored.trans (prune_shrunk (emptied_accounting ok key found entry) _)

theorem drainOne_foldl_shrunk (ok : Ok s) (keys : List CallerKey) :
    Shrunk s (keys.foldl drainOne s) := by
  induction keys generalizing s with
  | nil => exact .refl s
  | cons key keys ih => exact (drainOne_shrunk ok key).trans (ih (drainOne_ok ok key))

theorem drainSubject_shrunk (ok : Ok s) (entry : String × List String) :
    Shrunk s (s.drainSubject entry) := by
  obtain ⟨k, ms⟩ := entry
  cases found : s.subjects.lookup k with
  | none =>
      simp only [Scheduler.drainSubject, found]
      exact .refl s
  | some subj =>
      have start : Shrunk s (commit s k (s.waiters, subj)) := by
        have active : subj.active = true := by
          simpa [SubjectState.active] using ok.occupied k subj found
        rw [commit, if_pos active]
        exact shrunk_of_store rfl rfl (by rw [subject_eq found])
      rw [drainSubject_eq found]
      exact start.trans (drainOne_foldl_shrunk (commit_ok ok found) _)

theorem drain_shrunk (ok : Ok s) (order : List (String × List String)) :
    Shrunk s (s.drain order) := by
  unfold Scheduler.drain
  induction order generalizing s with
  | nil => exact .refl s
  | cons entry order ih =>
      exact (drainSubject_shrunk ok entry).trans (ih (drainSubject_ok ok entry).1)

end Operations

def sessionRing (k : String) (s : Scheduler) : List String := (s.subject k).rotor.order

def subjectGrant (chosen : Option CallerKey) : Option String := chosen.map CallerKey.subject

def sessionGrant (k : String) (chosen : Option CallerKey) : Option String :=
  chosen.bind fun key => if key.subject = k then some key.session else none

theorem insert_turn {ν : Type} {weight : ν → Nat} {rotor : Rotor}
    {table : AList fun _ : String => ν} {n : Nat} (accounted : Accounted weight rotor table n)
    (servable : String → Prop) (k : String) : Turn servable rotor.order none
      (if (table.lookup k).isSome then rotor else rotor.insert k).order := by
  split_ifs with present
  · exact .leave (List.Sublist.refl _)
  · rw [Rotor.order_insert]
    refine .arrive fun member => present ?_
    exact AList.lookup_isSome.mpr ((accounted.covers k).mp member)

theorem enqueue_outer_turn {s : Scheduler} (ok : Ok s) (stopped : Bool) (key : CallerKey)
    (servable : String → Prop) :
    Turn servable s.rotor.order none (s.enqueue stopped key).rotor.order := by
  cases stopped with
  | true => exact .leave (List.Sublist.refl _)
  | false => exact insert_turn ok.outer servable key.subject

theorem enqueue_inner_turn {s : Scheduler} (ok : Ok s) (stopped : Bool) (key : CallerKey)
    (servable : String → Prop) (k : String) :
    Turn servable (sessionRing k s) none (sessionRing k (s.enqueue stopped key)) := by
  cases stopped with
  | true => exact .leave (List.Sublist.refl _)
  | false =>
      have stored : (s.enqueue false key).subject k = _ := subject_insert rfl k
      unfold sessionRing
      by_cases same : k = key.subject
      · subst same
        rw [stored, if_pos rfl]
        exact insert_turn (subject_accounted ok key.subject) servable key.session
      · rw [stored, if_neg same]
        exact .leave (List.Sublist.refl _)

theorem Granted.outer_turn {s s' : Scheduler} {w : Nat} {key : CallerKey}
    (granted : Granted s w key s') :
    Turn (Grantable s) s.rotor.order (some key.subject) s'.rotor.order := by
  have able := granted.grantable
  cases granted with
  | mk order skipped =>
      rw [Rotor.order_advancePast_of_split order, order]
      exact .serve skipped able

theorem Granted.inner_turn {s s' : Scheduler} {w : Nat} {key : CallerKey}
    (granted : Granted s w key s') (k : String) : Turn (Servable s (s.subject k))
      (sessionRing k s) (sessionGrant k (some key)) (sessionRing k s') := by
  cases granted with
  | @mk subj cs rest waiter passed behind innerPassed innerBehind _ _ found _ order skipped entry
      queue eligible =>
      unfold sessionRing
      by_cases same : key.subject = k
      · subst same
        have chosen : sessionGrant key.subject (some key) = some key.session := if_pos rfl
        rw [chosen, Scheduler.subject, Scheduler.subject, found, AList.lookup_insert,
          Option.getD_some, Option.getD_some, Rotor.order_advancePast_of_split order, order]
        exact .serve skipped ⟨cs, entry, by simp [queue], eligible⟩
      · have chosen : sessionGrant k (some key) = none := if_neg same
        rw [chosen, Scheduler.subject, Scheduler.subject, AList.lookup_insert_ne (Ne.symm same)]
        exact .leave (List.Sublist.refl _)

theorem Stepped.outer_turn {st st' : System} {a : Action} {chosen : Option CallerKey}
    (ok : Ok st.sched) (stepped : Stepped st a chosen st') :
    Turn (Grantable st.sched) st.sched.rotor.order (subjectGrant chosen) st'.sched.rotor.order := by
  cases stepped with
  | enqueue key _ => exact enqueue_outer_turn ok _ key _
  | abandon w waiter _ known => exact .leave (abandon_shrunk ok known).outer
  | release w waiter _ known => exact .leave (release_shrunk ok known).outer
  | paced _ _ granted => exact granted.outer_turn
  | unpaced _ granted => exact granted.outer_turn
  | drain order => exact .leave (drain_shrunk ok order).outer
  | _ => exact .leave (List.Sublist.refl _)

theorem Stepped.inner_turn {st st' : System} {a : Action} {chosen : Option CallerKey}
    (ok : Ok st.sched) (stepped : Stepped st a chosen st') (k : String) :
    Turn (Servable st.sched (st.sched.subject k)) (sessionRing k st.sched) (sessionGrant k chosen)
      (sessionRing k st'.sched) := by
  cases stepped with
  | enqueue key _ => exact enqueue_inner_turn ok _ key _ k
  | abandon w waiter _ known => exact .leave ((abandon_shrunk ok known).inner k)
  | release w waiter _ known => exact .leave ((release_shrunk ok known).inner k)
  | paced _ _ granted => exact granted.inner_turn k
  | unpaced _ granted => exact granted.inner_turn k
  | drain order => exact .leave ((drain_shrunk ok order).inner k)
  | _ => exact .leave (List.Sublist.refl _)

end BrokerMcp.Proof.Scheduler
