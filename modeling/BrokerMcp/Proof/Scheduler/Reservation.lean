import BrokerMcp.Proof.Scheduler.Rotation

namespace BrokerMcp.Proof.Scheduler
open Resilience Transition RoundRobin

section Release

variable {s : Scheduler} {key : CallerKey}

theorem prune_inFlight (accounting : Accounting (· = key) s) (k : String) :
    ((s.pruneSessionLocked key).subject k).inFlight = (s.subject k).inFlight := by
  cases found : s.subjects.lookup key.subject with
  | none => simp [Scheduler.pruneSessionLocked, found]
  | some subj =>
      cases entry : subj.sessions.lookup key.session with
      | none => simp [Scheduler.pruneSessionLocked, found, entry]
      | some cs =>
          cases idle : cs.active with
          | true => simp [Scheduler.pruneSessionLocked, found, entry, idle]
          | false =>
              cases occupied : (pruned subj key.session).active with
              | true =>
                  rw [prune_session found entry idle occupied, subject_insert rfl]
                  split_ifs with same
                  · rw [same, subject_eq found]
                    rfl
                  · rfl
              | false =>
                  rw [prune_subject found entry idle occupied, subject_erase rfl]
                  split_ifs with same
                  · rw [same, subject_eq found,
                      (pruned_accounted accounting found entry idle).total, sessions_empty occupied]
                    rfl
                  · rfl

theorem prune_order
    (kept : key.subject ∈ (s.pruneSessionLocked key).subjects) :
    (s.pruneSessionLocked key).rotor.order = s.rotor.order := by
  cases found : s.subjects.lookup key.subject with
  | none => simp [Scheduler.pruneSessionLocked, found]
  | some subj =>
      cases entry : subj.sessions.lookup key.session with
      | none => simp [Scheduler.pruneSessionLocked, found, entry]
      | some cs =>
          cases idle : cs.active with
          | true => simp [Scheduler.pruneSessionLocked, found, entry, idle]
          | false =>
              cases occupied : (pruned subj key.session).active with
              | true => rw [prune_session found entry idle occupied]
              | false =>
                  rw [prune_subject found entry idle occupied] at kept
                  simp [AList.mem_erase] at kept

variable {w : Nat} {waiter : Waiter}

structure Freed (s : Scheduler) (t : String) (s' : Scheduler) : Prop where
  ok : Ok s'
  limit : s'.limit = s.limit
  inFlight : s'.inFlight = s.inFlight - 1
  queues : ∀ k, (s'.session k).queue = (s.session k).queue
  own : (s'.subject t).inFlight = (s.subject t).inFlight - 1
  others : ∀ k, k ≠ t → (s'.subject k).inFlight = (s.subject k).inFlight
  order : t ∈ s'.subjects → s'.rotor.order = s.rotor.order

theorem release_freed (ok : Ok s) (known : s.waiters[w]? = some waiter)
    (holds : holding waiter = true) : Freed s waiter.key.subject (s.release w waiter).1 := by
  have guard : ¬ (waiter.resolved || !waiter.granted) = true := by
    simpa [holding, and_comm] using holds
  have shape : (s.release w waiter).1 =
      { s with waiters := s.waiters.modify w Waiter.resolve }.releaseLocked waiter.key := by
    rw [Scheduler.release, if_neg guard]
  obtain ⟨subj, cs, subject, entry, counted⟩ := holder_held ok known holds
  have accounting := released_accounting ok known holds subject entry counted
  obtain ⟨subjects, rotor, frame⟩ :=
    prune_frame (released s w waiter.key subj cs) waiter.key
  have stored : ∀ k, (released s w waiter.key subj cs).subject k = _ := subject_insert rfl
  rw [shape, releaseLocked_eq subject entry counted]
  refine ⟨pruneSessionLocked_ok accounting, ?_, ?_, ?_, ?_, ?_, prune_order⟩
  · rw [frame]
    rfl
  · rw [frame]
    rfl
  · intro k
    rw [session_prune, session_store rfl (by rw [subject_eq subject])]
    split_ifs with same
    · rw [same, session_of_lookup subject entry]
    · rfl
  · rw [prune_inFlight accounting, stored, if_pos rfl, subject_eq subject]
  · intro k different
    rw [prune_inFlight accounting, stored, if_neg different]

end Release

theorem hasQueued_iff {s : Scheduler} {k : String} {subj : SubjectState}
    (found : s.subjects.lookup k = some subj) :
    subj.hasQueued = true ↔ ∃ m, (s.session ⟨k, m⟩).queue ≠ [] := by
  unfold SubjectState.hasQueued
  rw [AList.any_iff]
  constructor
  · rintro ⟨m, cs, entry, waiting⟩
    refine ⟨m, ?_⟩
    rw [session_of_lookup found entry]
    simpa using waiting
  · rintro ⟨m, waiting⟩
    cases entry : subj.sessions.lookup m with
    | none =>
        rw [session_of_no_session found entry] at waiting
        exact absurd rfl waiting
    | some cs =>
        rw [session_of_lookup found entry] at waiting
        exact ⟨m, cs, entry, by simpa using waiting⟩

theorem starved_iff {s : Scheduler} {k : String} :
    Starved s k ↔ (∃ m, (s.session ⟨k, m⟩).queue ≠ []) ∧ (s.subject k).inFlight = 0 := by
  constructor
  · rintro ⟨subj, found, queued, none⟩
    exact ⟨(hasQueued_iff found).mp queued, by rw [subject_eq found, none]⟩
  · rintro ⟨queued, none⟩
    cases found : s.subjects.lookup k with
    | none =>
        obtain ⟨m, waiting⟩ := queued
        have empty : s.session ⟨k, m⟩ = .new := session_of_no_subject found
        rw [empty] at waiting
        exact absurd rfl waiting
    | some subj =>
        rw [subject_eq found] at none
        exact ⟨subj, found, (hasQueued_iff found).mpr queued, none⟩

theorem grantable_iff_starved {s : Scheduler} (ok : Ok s) (many : 1 < s.limit)
    (last : s.limit - s.inFlight = 1) {j : String} (starved : Starved s j) (k : String) :
    Grantable s k ↔ Starved s k := by
  constructor
  · rintro ⟨subj, found, eligible, m, servable⟩
    refine ⟨subj, found, hasQueued_of_servable servable, ?_⟩
    by_contra holds
    have other : j ≠ k := by
      rintro rfl
      obtain ⟨subj', found', -, none⟩ := starved
      rw [Option.some.inj (found.symm.trans found')] at holds
      exact holds none
    obtain ⟨-, -, unreserved⟩ := eligible_iff.mp eligible
    apply unreserved
    exact ⟨many, last, by omega, hasStarvedSubject_iff.mpr ⟨j, other, starved⟩⟩
  · exact grantable_of_starved ok (by omega)

theorem starved_mem {s : Scheduler} {k : String} (starved : Starved s k) : k ∈ s.subjects := by
  obtain ⟨subj, found, -⟩ := starved
  exact AList.lookup_isSome.mp (by simp [found])

section Freed

variable {s s' : Scheduler} {t : String} (freed : Freed s t s')
include freed

theorem starved_other {k : String} (different : k ≠ t) : Starved s' k ↔ Starved s k := by
  rw [starved_iff, starved_iff, freed.others k different]
  simp only [freed.queues]

theorem starved_own (held : 0 < (s.subject t).inFlight) : Starved s' t ↔
    (s.subject t).inFlight = 1 ∧ (s.subject t).hasQueued = true := by
  have found : ∃ subj, s.subjects.lookup t = some subj := by
    cases found : s.subjects.lookup t with
    | none => simp [Scheduler.subject, found, SubjectState.new] at held
    | some subj => exact ⟨subj, rfl⟩
  obtain ⟨subj, found⟩ := found
  rw [starved_iff, freed.own, subject_eq found, hasQueued_iff found]
  rw [subject_eq found] at held
  simp only [freed.queues]
  constructor
  · exact fun h => ⟨by omega, h.1⟩
  · exact fun h => ⟨h.2, by omega⟩

/-- The slot goes to the first starved subject, which is the one that released it only if that one
has just given up its last slot and nobody starved is in front of it. -/
theorem freed_slot_kept_iff (many : 1 < s.limit) (full : s.inFlight = s.limit)
    (held : 0 < (s.subject t).inFlight) {j : String} (different : j ≠ t) (starved : Starved s j)
    {w : Nat} {key : CallerKey} {s'' : Scheduler} (granted : Granted s' w key s'') :
    key.subject ≠ t ↔ 2 ≤ (s.subject t).inFlight ∨ (s.subject t).hasQueued = false ∨
      ∃ k ∈ ahead s.rotor.order t, Starved s k := by
  have many' : 1 < s'.limit := by
    rw [freed.limit]
    exact many
  have last : s'.limit - s'.inFlight = 1 := by
    rw [freed.limit, freed.inFlight]
    omega
  have able := grantable_iff_starved freed.ok many' last ((starved_other freed different).mpr starved)
  have nodup := freed.ok.outer.nodup
  have chosen : Starved s' key.subject := (able _).mp granted.grantable
  cases granted with
  | @mk subj cs rest waiter passed behind _ _ order skipped =>
      have same : Starved s' t → s.rotor.order = passed ++ key.subject :: behind :=
        fun own => (freed.order (starved_mem own)).symm.trans order
      rw [order] at nodup
      constructor
      · intro other
        by_contra fails
        simp only [not_or, not_exists, not_and, Bool.not_eq_false] at fails
        obtain ⟨few, queued, clear⟩ := fails
        have own : Starved s' t := (starved_own freed held).mpr ⟨by omega, queued⟩
        have absent : t ∉ passed := fun member => skipped t member ((able t).mpr own)
        refine clear key.subject ?_ ((starved_other freed other).mp chosen)
        rw [same own]
        exact mem_ahead_of_passed absent other
      · rintro condition rfl
        obtain ⟨one, queued⟩ := (starved_own freed held).mp chosen
        rcases condition with two | idle | ⟨k, inFront, waits⟩
        · omega
        · simp [queued] at idle
        · rw [same chosen, ahead_split nodup] at inFront
          have other : k ≠ key.subject := by
            rintro rfl
            exact (List.nodup_append.mp nodup).2.2 _ inFront _ (.head _) rfl
          exact skipped k inFront ((able k).mpr ((starved_other freed other).mpr waits))

end Freed

theorem held_of_holder {s : Scheduler} (ok : Ok s) {w : Nat} {waiter : Waiter}
    (known : s.waiters[w]? = some waiter) (holds : holding waiter = true) :
    0 < (s.subject waiter.key.subject).inFlight := by
  obtain ⟨subj, cs, subject, entry, counted⟩ := holder_held ok known holds
  have bound : cs.inFlight ≤ subj.inFlight := by
    rw [(ok.inner _ _ subject).total]
    exact AList.le_total entry _
  rw [subject_eq subject]
  omega

theorem last_slot_reserved_iff (cap : Nat) (enabled : Bool) (limit : Int) (positive : 1 ≤ cap)
    {st st' : System} (reachable : Reachable cap enabled limit st) (many : 1 < st.sched.limit)
    (full : st.sched.inFlight = st.sched.limit) {j t : String} (different : j ≠ t)
    (starved : Starved st.sched j) {w : Nat} {waiter : Waiter}
    (known : st.sched.waiters[w]? = some waiter) (owner : waiter.key.subject = t)
    (holds : waiter.granted = true ∧ waiter.resolved = false)
    (step : st.step (.release w) = some st') :
    ∃ s v waiter', st'.sched.grantOneLocked = some (s, v) ∧
      st'.sched.waiters[v]? = some waiter' ∧
      (waiter'.key.subject ≠ t ↔
        2 ≤ (st.sched.subject t).inFlight ∨ (st.sched.subject t).hasQueued = false ∨
          ∃ k ∈ ahead st.sched.rotor.order t, Starved st.sched k) := by
  subst owner
  have ok := reachable_ok positive reachable
  have holding : holding waiter = true := by simp [Scheduler.holding, holds]
  have freed : Freed st.sched waiter.key.subject st'.sched := by
    have stepped := step_stepped ok step
    generalize st.grantee (.release w) = chosen at stepped
    cases stepped with
    | release _ waiter' _ known' =>
        obtain rfl := Option.some.inj (known.symm.trans known')
        exact release_freed ok known holding
  have room : st'.sched.inFlight < st'.sched.limit := by
    rw [freed.limit, freed.inFlight]
    omega
  have able := grantable_of_starved freed.ok room ((starved_other freed different).mpr starved)
  cases grant : st'.sched.grantOneLocked with
  | none => exact absurd able ((grantOneLocked_eq_none freed.ok).mp grant j)
  | some result =>
      obtain ⟨s, v⟩ := result
      obtain ⟨key, granted⟩ := grantOneLocked_eq_some freed.ok grant
      obtain ⟨waiter', known', charged⟩ := Option.map_eq_some_iff.mp granted.known
      refine ⟨s, v, waiter', rfl, known', ?_⟩
      rw [charged]
      exact freed_slot_kept_iff freed many full (held_of_holder ok known holding) different starved
        granted

-- One subject holds both slots: the one it releases goes to the newcomer.
theorem last_slot_reserved_for_newcomer : ∃ st st' s v waiter', Reachable 2 true 2 st ∧
    Starved st.sched "s" ∧ st.step (.release 0) = some st' ∧
    st'.sched.grantOneLocked = some (s, v) ∧ st'.sched.waiters[v]? = some waiter' ∧
    waiter'.key.subject ≠ "t" := by
  obtain ⟨st, st', waiter, begun, step, many, full, starved, known, owner, holds, two⟩ :
      ∃ st st' waiter, exec System.step (.start ⟨2, 0, false⟩ true 2)
        [.enqueue ⟨"t", "x"⟩, .enqueue ⟨"t", "x"⟩, .enqueue ⟨"t", "x"⟩, .tick, .pass, .tick, .pass,
          .enqueue ⟨"s", "x"⟩, .tick, .pass] = some st ∧
      st.step (.release 0) = some st' ∧ 1 < st.sched.limit ∧
      st.sched.inFlight = st.sched.limit ∧ Starved st.sched "s" ∧
      st.sched.waiters[0]? = some waiter ∧ waiter.key.subject = "t" ∧
      (waiter.granted = true ∧ waiter.resolved = false) ∧ (st.sched.subject "t").inFlight = 2 :=
    ⟨_, _, _, rfl, rfl, by decide, rfl, by decide, rfl, rfl, by decide, rfl⟩
  have reachable : Reachable 2 true 2 st := ⟨_, run_of_exec begun⟩
  obtain ⟨s, v, waiter', grant, known', kept⟩ := last_slot_reserved_iff 2 true 2 (by decide)
    reachable many full (by decide) starved known owner holds step
  exact ⟨st, st', s, v, waiter', reachable, starved, step, grant, known',
    kept.mpr (.inl (Nat.le_of_eq two.symm))⟩

/-- Two subjects hold one slot each. The one that releases its slot holds none afterwards, so the
reservation does not apply to it, and it stands in front of the newcomer. -/
theorem last_slot_retaken : ¬ ∀ (cap : Nat) (enabled : Bool) (limit : Int) (st st' : System)
    (j t : String) (w : Nat) (waiter : Waiter) (s : Scheduler) (v : Nat) (waiter' : Waiter),
    1 ≤ cap → Reachable cap enabled limit st → 1 < st.sched.limit →
    st.sched.inFlight = st.sched.limit → j ≠ t → Starved st.sched j →
    st.sched.waiters[w]? = some waiter → waiter.key.subject = t →
    waiter.granted = true ∧ waiter.resolved = false → st.step (.release w) = some st' →
    st'.sched.paced = false ∨ st'.sched.credit = true →
    st'.sched.grantOneLocked = some (s, v) → st'.sched.waiters[v]? = some waiter' →
    waiter'.key.subject ≠ t := by
  intro law
  obtain ⟨st, st', waiter, s, v, waiter', begun, step, many, full, starved, known, owner, holds,
      credit, grant, known', retaken⟩ :
      ∃ st st' waiter s v waiter', exec System.step (.start ⟨2, 0, false⟩ true 2)
        [.enqueue ⟨"t", "x"⟩, .enqueue ⟨"u", "x"⟩, .enqueue ⟨"t", "x"⟩, .tick, .pass, .tick, .pass,
          .enqueue ⟨"s", "x"⟩, .tick, .pass] = some st ∧
      st.step (.release 0) = some st' ∧ 1 < st.sched.limit ∧
      st.sched.inFlight = st.sched.limit ∧ Starved st.sched "s" ∧
      st.sched.waiters[0]? = some waiter ∧ waiter.key.subject = "t" ∧
      (waiter.granted = true ∧ waiter.resolved = false) ∧ st'.sched.credit = true ∧
      st'.sched.grantOneLocked = some (s, v) ∧ st'.sched.waiters[v]? = some waiter' ∧
      waiter'.key.subject = "t" :=
    ⟨_, _, _, _, _, _, rfl, rfl, by decide, rfl, by decide, rfl, rfl, by decide, rfl, rfl, rfl, rfl⟩
  exact law 2 true 2 st st' "s" "t" 0 waiter s v waiter' (by decide) ⟨_, run_of_exec begun⟩ many
    full (by decide) starved known owner holds step (.inr credit) grant known' retaken

theorem alone_eq {s : Scheduler} (alone : s.subjects.size = 1) {j k : String}
    {subj subj' : SubjectState} (found : s.subjects.lookup k = some subj)
    (found' : s.subjects.lookup j = some subj') : j = k := by
  obtain ⟨_, _, _, only⟩ := AList.lookup_of_size_one alone
  exact (only _ _ found').trans (only _ _ found).symm

section Alone

variable {s : Scheduler} (ok : Ok s) (alone : s.subjects.size = 1) {k : String}
  {subj : SubjectState} (found : s.subjects.lookup k = some subj)
include ok alone found

theorem alone_inFlight : subj.inFlight = s.inFlight := by
  have empty : (s.subjects.erase k).total SubjectState.inFlight = 0 := by
    have size := AList.size_erase found
    have none : (s.subjects.erase k).entries = [] :=
      List.eq_nil_of_length_eq_zero (by unfold AList.size at size alone; omega)
    simp [AList.total, none]
  rw [ok.outer.total, AList.total_erase found, empty, Nat.add_zero]

omit found in
theorem alone_ceiling : s.subjectCeilingLocked = s.limit := by
  have positive := ok.slots.positive
  simp only [Scheduler.subjectCeilingLocked, alone]
  split_ifs <;> omega

theorem alone_eligible (room : s.inFlight < s.limit) : s.eligibleLocked k subj = true := by
  refine eligible_iff.mpr ⟨room, ?_, fun held => ?_⟩
  · rw [alone_inFlight ok alone found, alone_ceiling ok alone]
    exact room
  · obtain ⟨j, different, subj', found', -⟩ := hasStarvedSubject_iff.mp held.2.2.2
    exact different (alone_eq alone found found')

omit found in
theorem alone_sessionCeiling (occupied : 0 < subj.sessions.size) : sessionCeiling s subj =
    (s.limit + subj.sessions.size - 1) / subj.sessions.size := by
  have positive := ok.slots.positive
  have size : max 1 subj.sessions.size = subj.sessions.size := by omega
  have least : 1 ≤ (s.limit + subj.sessions.size - 1) / subj.sessions.size := by
    rw [Nat.one_le_div_iff occupied]
    omega
  rw [sessionCeiling, alone_ceiling ok alone, size]
  omega

theorem alone_grantable_iff (room : s.inFlight < s.limit) : Grantable s k ↔
    ∃ m cs, subj.sessions.lookup m = some cs ∧ cs.queue ≠ [] ∧
      cs.inFlight < (s.limit + subj.sessions.size - 1) / subj.sessions.size := by
  have ceiling := alone_sessionCeiling ok alone (ok.occupied k subj found)
  constructor
  · rintro ⟨subj', found', -, m, cs, entry, queued, eligible⟩
    obtain rfl := Option.some.inj (found.symm.trans found')
    exact ⟨m, cs, entry, queued, ceiling ▸ (sessionEligible_iff.mp eligible).1⟩
  · rintro ⟨m, cs, entry, queued, below⟩
    refine ⟨subj, found, alone_eligible ok alone found room, ?_⟩
    by_cases nobody : ∀ j, ¬ StarvedSession subj j
    · refine ⟨m, cs, entry, queued, (sessionEligible_of_nobody_starved nobody).mpr ?_⟩
      rwa [ceiling]
    · simp only [not_forall, not_not] at nobody
      obtain ⟨j, starved⟩ := nobody
      exact ⟨j, servable_of_starved starved⟩

end Alone

theorem lone_subject_granted_iff (cap : Nat) (enabled : Bool) (limit : Int) (positive : 1 ≤ cap)
    {st : System} (reachable : Reachable cap enabled limit st)
    (alone : st.sched.subjects.size = 1) {k : String} {subj : SubjectState}
    (found : st.sched.subjects.lookup k = some subj)
    (room : st.sched.inFlight < st.sched.limit) :
    (∃ s v waiter, st.sched.grantOneLocked = some (s, v) ∧ st.sched.waiters[v]? = some waiter ∧
        waiter.key.subject = k) ↔
      ∃ m cs, subj.sessions.lookup m = some cs ∧ cs.queue ≠ [] ∧
        cs.inFlight < (st.sched.limit + subj.sessions.size - 1) / subj.sessions.size := by
  have ok := reachable_ok positive reachable
  rw [← alone_grantable_iff ok alone found room]
  cases grant : st.sched.grantOneLocked with
  | none =>
      have nobody := (grantOneLocked_eq_none ok).mp grant k
      simp [nobody]
  | some result =>
      obtain ⟨s, v⟩ := result
      obtain ⟨key, granted⟩ := grantOneLocked_eq_some ok grant
      obtain ⟨waiter, known, charged⟩ := Option.map_eq_some_iff.mp granted.known
      obtain ⟨subj', found', -⟩ := granted.grantable
      have own := alone_eq alone found found'
      constructor
      · exact fun _ => own ▸ granted.grantable
      · exact fun _ => ⟨s, v, waiter, rfl, known, charged ▸ own⟩

-- With one session, the only subject gets the whole cap.
theorem lone_subject_granted_last_slot : ∃ st, Reachable 2 true 2 st ∧ st.sched.inFlight = 1 ∧
    ∃ s v waiter, st.sched.grantOneLocked = some (s, v) ∧ st.sched.waiters[v]? = some waiter ∧
      waiter.key.subject = "a" := by
  obtain ⟨st, subj, cs, begun, alone, found, one, two, entry, queued, below⟩ :
      ∃ st subj cs, exec System.step (.start ⟨2, 0, false⟩ true 2)
        [.enqueue ⟨"a", "x"⟩, .enqueue ⟨"a", "x"⟩, .tick, .pass] = some st ∧
      st.sched.subjects.size = 1 ∧ st.sched.subjects.lookup "a" = some subj ∧
      st.sched.inFlight = 1 ∧ st.sched.limit = 2 ∧ subj.sessions.lookup "x" = some cs ∧
      cs.queue ≠ [] ∧
      cs.inFlight < (st.sched.limit + subj.sessions.size - 1) / subj.sessions.size :=
    ⟨_, _, _, rfl, rfl, rfl, rfl, rfl, rfl, by decide, by decide⟩
  have reachable : Reachable 2 true 2 st := ⟨_, run_of_exec begun⟩
  refine ⟨st, reachable, one, ?_⟩
  exact (lone_subject_granted_iff 2 true 2 (by decide) reachable alone found (by omega)).mpr
    ⟨"x", cs, entry, queued, below⟩

/-- A session that holds a slot and queues nothing still counts: its sibling is held to half of the
cap, and the last slot stays empty. -/
theorem lone_subject_refused : ¬ ∀ (cap : Nat) (enabled : Bool) (limit : Int) (st : System)
    (k : String) (subj : SubjectState), 1 ≤ cap → Reachable cap enabled limit st →
    st.sched.subjects.size = 1 → st.sched.subjects.lookup k = some subj →
    subj.hasQueued = true → st.sched.inFlight < st.sched.limit →
    st.sched.paced = false ∨ st.sched.credit = true →
    ∃ s v waiter, st.sched.grantOneLocked = some (s, v) ∧ st.sched.waiters[v]? = some waiter ∧
      waiter.key.subject = k := by
  intro law
  obtain ⟨st, subj, begun, alone, found, queued, room, credit, refused⟩ :
      ∃ st subj, exec System.step (.start ⟨4, 0, false⟩ true 4)
        [.enqueue ⟨"a", "x"⟩, .enqueue ⟨"a", "y"⟩, .enqueue ⟨"a", "y"⟩, .enqueue ⟨"a", "y"⟩,
          .tick, .pass, .tick, .pass, .tick, .pass, .tick, .pass] = some st ∧
      st.sched.subjects.size = 1 ∧ st.sched.subjects.lookup "a" = some subj ∧
      subj.hasQueued = true ∧ st.sched.inFlight < st.sched.limit ∧ st.sched.credit = true ∧
      st.sched.grantOneLocked.isNone = true := ⟨_, _, rfl, rfl, rfl, rfl, by decide, rfl, rfl⟩
  obtain ⟨s, v, waiter, grant, -⟩ := law 4 true 4 st "a" subj (by decide)
    ⟨_, run_of_exec begun⟩ alone found queued room (.inr credit)
  simp [grant] at refused

end BrokerMcp.Proof.Scheduler
