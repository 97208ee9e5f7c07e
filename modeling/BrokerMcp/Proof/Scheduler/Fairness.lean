import BrokerMcp.Proof.Scheduler.Rotation

namespace BrokerMcp.Proof.Scheduler
open Resilience Transition RoundRobin

def subjectGrants (history : List (System × Action)) : List String :=
  history.filterMap fun p => subjectGrant (p.1.grantee p.2)

def sessionGrants (k : String) (history : List (System × Action)) : List String :=
  history.filterMap fun p => sessionGrant k (p.1.grantee p.2)

section Rounds

variable {st st' : System} {history : List (System × Action)} (ok : Ok st.sched)
  (run : Run System.step st history st')
include ok run

theorem outer_rounds : Rounds st.sched.rotor.order
    (history.map (roundOf System.step (·.sched.rotor.order) (fun st => Grantable st.sched)
      fun st a => subjectGrant (st.grantee a))) st'.sched.rotor.order :=
  rounds_of_run (fun st => Ok st.sched) run ok (fun _ _ _ => step_ok)
    fun _ _ _ here step => (step_stepped here step).outer_turn here

theorem inner_rounds (k : String) : Rounds (sessionRing k st.sched)
    (history.map (roundOf System.step (fun st => sessionRing k st.sched)
      (fun st => Servable st.sched (st.sched.subject k))
      fun st a => sessionGrant k (st.grantee a))) (sessionRing k st'.sched) :=
  rounds_of_run (fun st => Ok st.sched) run ok (fun _ _ _ => step_ok)
    fun _ _ _ here step => (step_stepped here step).inner_turn here k

end Rounds

theorem granted_of_subjectGrant {st : System} {a : Action}
    (chosen : (subjectGrant (st.grantee a)).isSome) : (st.granted a).isSome := by
  unfold subjectGrant System.grantee at chosen
  cases hit : st.granted a with
  | none => simp [hit] at chosen
  | some w => rfl

theorem mem_order_of_found {s : Scheduler} (ok : Ok s) {k : String} {subj : SubjectState}
    (found : s.subjects.lookup k = some subj) : k ∈ s.rotor.order :=
  (ok.outer.covers k).mpr (AList.lookup_isSome.mp (by simp [found]))

theorem mem_sessionRing {s : Scheduler} (ok : Ok s) {k m : String} :
    m ∈ sessionRing k s ↔ m ∈ (s.subject k).sessions :=
  (subject_accounted ok k).covers m

theorem room_of_granted {st : System} {a : Action} (ok : Ok st.sched)
    (hit : (st.granted a).isSome) : st.sched.inFlight < st.sched.limit := by
  obtain ⟨w, hit⟩ := Option.isSome_iff_exists.mp hit
  obtain ⟨key, s, granted⟩ := granted_of_granted ok hit
  cases granted with
  | mk _ _ _ eligible => exact eligible_room eligible

theorem ahead_atOffset {r : Rotor} {offset : Nat} {k : String} (nodup : r.order.Nodup)
    (inside : offset < r.len) (here : r.atOffset offset = some k) :
    (ahead r.order k).length = offset ∧
      ∀ j ∈ ahead r.order k, ∃ i < offset, r.atOffset i = some j := by
  have inOrder : offset < r.order.length := by rwa [r.length_order]
  rw [Rotor.atOffset_eq inside, List.getElem?_eq_getElem inOrder, Option.some.injEq] at here
  have split : r.order = r.order.take offset ++ k :: r.order.drop (offset + 1) := by
    rw [← here, ← List.drop_eq_getElem_cons, List.take_append_drop]
  have front : ahead r.order k = r.order.take offset := by
    rw [split] at nodup
    conv_lhs => rw [split]
    exact ahead_split nodup
  rw [front]
  refine ⟨List.length_take_of_le (by omega), fun j member => ?_⟩
  obtain ⟨i, below, value⟩ := List.mem_take_iff_getElem.mp member
  refine ⟨i, by omega, ?_⟩
  rw [Rotor.atOffset_eq (by omega), List.getElem?_eq_getElem (by omega), value]

structure Bypassed (r : Rotor) (offset : Nat) (others : List String) : Prop where
  distinct : others.Nodup
  bounded : others.length ≤ offset
  nearer : ∀ k ∈ others, ∃ i < offset, r.atOffset i = some k

theorem bypassed_of_sublist {r : Rotor} {offset : Nat} {k : String} {others : List String}
    (nodup : r.order.Nodup) (inside : offset < r.len) (here : r.atOffset offset = some k)
    (sub : others.Sublist (ahead r.order k)) : Bypassed r offset others := by
  obtain ⟨length, nearer⟩ := ahead_atOffset nodup inside here
  refine ⟨?_, length ▸ sub.length_le, fun j member => nearer j (sub.subset member)⟩
  exact (nodup.sublist (List.takeWhile_sublist _)).sublist sub

theorem subject_bypass {st st' : System} {history : List (System × Action)} (ok : Ok st.sched)
    (run : Run System.step st history st') {k : String} {offset : Nat}
    (starved : ∀ p ∈ history, Starved p.1.sched k) (inside : offset < st.sched.rotor.len)
    (here : st.sched.rotor.atOffset offset = some k) :
    Bypassed st.sched.rotor offset ((subjectGrants history).takeWhile (· ≠ k)) := by
  have visited := (run_ok run ok).2
  apply bypassed_of_sublist ok.outer.nodup inside here
  have bound := bypass (outer_rounds ok run) (a := k) ok.outer.nodup ?_ ?_
  · rwa [served_roundOf] at bound
  · intro r member
    obtain ⟨p, visit, rfl⟩ := List.mem_map.mp member
    obtain ⟨subj, found, -⟩ := starved p visit
    exact mem_order_of_found (visited p visit) found
  · intro r member chosen
    obtain ⟨p, visit, rfl⟩ := List.mem_map.mp member
    have room := room_of_granted (visited p visit) (granted_of_subjectGrant chosen)
    exact grantable_of_starved (visited p visit) room (starved p visit)

theorem session_bypass {st st' : System} {history : List (System × Action)} (ok : Ok st.sched)
    (run : Run System.step st history st') {k m : String} {offset : Nat}
    (starved : ∀ p ∈ history, StarvedSession (p.1.sched.subject k) m)
    (inside : offset < (st.sched.subject k).rotor.len)
    (here : (st.sched.subject k).rotor.atOffset offset = some m) :
    Bypassed (st.sched.subject k).rotor offset ((sessionGrants k history).takeWhile (· ≠ m)) := by
  have visited := (run_ok run ok).2
  have nodup := (subject_accounted ok k).nodup
  apply bypassed_of_sublist nodup inside here
  have bound := bypass (inner_rounds ok run k) (a := m) nodup ?_ ?_
  · rwa [served_roundOf] at bound
  · intro r member
    obtain ⟨p, visit, rfl⟩ := List.mem_map.mp member
    obtain ⟨cs, entry, -⟩ := starved p visit
    exact (mem_sessionRing (visited p visit)).mpr (AList.lookup_isSome.mp (by simp [entry]))
  · intro r member chosen
    obtain ⟨p, visit, rfl⟩ := List.mem_map.mp member
    exact servable_of_starved (starved p visit)

theorem bounded_bypass (cap : Nat) (enabled : Bool) (limit : Int) (positive : 1 ≤ cap)
    {st st' : System} (reachable : Reachable cap enabled limit st)
    {history : List (System × Action)} (run : Run System.step st history st') :
    (∀ k, (∀ p ∈ history, Starved p.1.sched k) →
      (∀ p ∈ history, ((p.1.granted p.2).isSome → p.1.sched.inFlight < p.1.sched.limit) ∧
        (p.1.sched.inFlight < p.1.sched.limit → Grantable p.1.sched k)) ∧
      ∀ offset < st.sched.rotor.len, st.sched.rotor.atOffset offset = some k →
        Bypassed st.sched.rotor offset ((subjectGrants history).takeWhile (· ≠ k))) ∧
    (∀ k m, (∀ p ∈ history, StarvedSession (p.1.sched.subject k) m) →
      (∀ p ∈ history, Servable p.1.sched (p.1.sched.subject k) m) ∧
      ∀ offset < (st.sched.subject k).rotor.len,
        (st.sched.subject k).rotor.atOffset offset = some m →
        Bypassed (st.sched.subject k).rotor offset
          ((sessionGrants k history).takeWhile (· ≠ m))) := by
  have ok := reachable_ok positive reachable
  have visited := (run_ok run ok).2
  constructor
  · intro k starved
    refine ⟨fun p visit => ⟨room_of_granted (visited p visit), fun room => ?_⟩, ?_⟩
    · exact grantable_of_starved (visited p visit) room (starved p visit)
    · exact fun offset inside here => subject_bypass ok run starved inside here
  · intro k m starved
    refine ⟨fun p visit => servable_of_starved (starved p visit), ?_⟩
    exact fun offset inside here => session_bypass ok run starved inside here

-- `b` waits behind `a`, who takes the first slot; then it is the turn of `b`, although `a` is still
-- queueing and `c` has arrived.
theorem bounded_bypass_of_two : ∃ st history st', Reachable 4 true 4 st ∧
    Run System.step st history st' ∧ (∀ p ∈ history, Starved p.1.sched "b") ∧
    st.sched.rotor.atOffset 1 = some "b" ∧ subjectGrants history = ["a", "b"] ∧
    Bypassed st.sched.rotor 1 ["a"] := by
  obtain ⟨st, history, st', begun, finished, traced, here, inside, starved, granted⟩ :
      ∃ st history st', exec System.step (.start ⟨4, 0, false⟩ true 4)
        [.enqueue ⟨"a", "x"⟩, .enqueue ⟨"a", "x"⟩, .enqueue ⟨"b", "x"⟩] = some st ∧
      exec System.step st [.tick, .pass, .enqueue ⟨"c", "x"⟩, .tick, .pass] = some st' ∧
      history = trace System.step st [.tick, .pass, .enqueue ⟨"c", "x"⟩, .tick, .pass] ∧
      st.sched.rotor.atOffset 1 = some "b" ∧ 1 < st.sched.rotor.len ∧
      (∀ p ∈ history, Starved p.1.sched "b") ∧ subjectGrants history = ["a", "b"] :=
    ⟨_, _, _, rfl, rfl, rfl, rfl, by decide, by decide, rfl⟩
  have reachable : Reachable 4 true 4 st := ⟨_, run_of_exec begun⟩
  have run : Run System.step st history st' := traced ▸ run_of_exec finished
  have bound := ((bounded_bypass 4 true 4 (by decide) reachable run).1 "b" starved).2 1 inside here
  refine ⟨st, history, st', reachable, run, starved, here, granted, ?_⟩
  rwa [granted] at bound

/-- Neither of the two is pruned between a grant to the other and a later grant to either. -/
def KeepsPlaces (present : System → String → Prop)
    (grantsOf : List (System × Action) → List String) (a b : String)
    (history : List (System × Action)) : Prop :=
  ∀ before p after c, history = before ++ p :: after → (c = a ∨ c = b) → present p.1 c →
    (∀ next, p.1.step p.2 = some next → ¬ present next c) →
    (grantsOf after).filter (fun d => d = a ∨ d = b) ≠ [] →
    ∀ d ∈ ((grantsOf before).filter fun d => d = a ∨ d = b).getLast?, d = c

section Balance

variable {st st' : System} {history : List (System × Action)} {ring : System → List String}
  {servable : System → String → Prop} {chosen : System → Action → Option String}
  {present : System → String → Prop} {a b : String}

theorem keepsTurn_of_keepsPlaces
    (member : ∀ p ∈ history, ∀ c, c ∈ ring p.1 ↔ present p.1 c)
    (memberNext : ∀ p ∈ history, ∀ next, p.1.step p.2 = some next → ∀ c,
      c ∈ ring next ↔ present next c)
    (keeps : KeepsPlaces present (List.filterMap fun p => chosen p.1 p.2) a b history) :
    KeepsTurn a b (history.map (roundOf System.step ring servable chosen)) := by
  intro before r after c split choice inside gone later d last
  obtain ⟨front, rest, rfl, rfl, shape⟩ := List.map_eq_append_iff.mp split
  obtain ⟨p, back, rfl, rfl, rfl⟩ := List.map_eq_cons_iff.mp shape
  have visit : p ∈ front ++ p :: back := by simp
  rw [turns, served_roundOf] at later last
  refine keeps front p back c rfl choice ((member p visit c).mp inside) ?_ later d last
  intro next taken
  rw [← memberNext p visit next taken]
  simpa [roundOf, taken] using gone

theorem balanced_of_rounds (ring : System → List String) (servable : System → String → Prop)
    (chosen : System → Action → Option String)
    (rounds : Rounds (ring st) (history.map (roundOf System.step ring servable chosen)) (ring st'))
    (nodup : (ring st).Nodup) (different : a ≠ b)
    (keeps : KeepsTurn a b (history.map (roundOf System.step ring servable chosen)))
    (able : ∀ p ∈ history, (chosen p.1 p.2).isSome → servable p.1 a ∧ servable p.1 b)
    (inRing : ∀ p ∈ history, ∀ c, servable p.1 c → c ∈ ring p.1) :
    (history.filterMap fun p => chosen p.1 p.2).count a ≤
        (history.filterMap fun p => chosen p.1 p.2).count b + 1 ∧
      (history.filterMap fun p => chosen p.1 p.2).count b ≤
        (history.filterMap fun p => chosen p.1 p.2).count a + 1 := by
  have ready : ∀ r ∈ history.map (roundOf System.step ring servable chosen), r.chosen.isSome →
      (r.servable a ∧ r.servable b) ∧ a ∈ r.ring ∧ b ∈ r.ring := by
    intro r member hit
    obtain ⟨p, visit, rfl⟩ := List.mem_map.mp member
    obtain ⟨ableA, ableB⟩ := able p visit hit
    exact ⟨⟨ableA, ableB⟩, inRing p visit a ableA, inRing p visit b ableB⟩
  rw [← served_roundOf]
  constructor
  · exact served_balanced rounds different nodup keeps ready
  · refine served_balanced rounds different.symm nodup keeps.symm fun r member hit => ?_
    obtain ⟨⟨ableA, ableB⟩, memberA, memberB⟩ := ready r member hit
    exact ⟨⟨ableB, ableA⟩, memberB, memberA⟩

end Balance

/-- Pruning and re-entering as often as they like, but not out of turn, two subjects are granted
equally many slots while both can be granted one; so are two sessions of one subject. -/
theorem fair_share (cap : Nat) (enabled : Bool) (limit : Int) (positive : 1 ≤ cap)
    {st st' : System} (reachable : Reachable cap enabled limit st)
    {history : List (System × Action)} (run : Run System.step st history st') :
    (∀ a b, a ≠ b →
      (∀ p ∈ history, (p.1.granted p.2).isSome → Grantable p.1.sched a ∧ Grantable p.1.sched b) →
      KeepsPlaces (fun st c => c ∈ st.sched.subjects) subjectGrants a b history →
      (subjectGrants history).count a ≤ (subjectGrants history).count b + 1 ∧
        (subjectGrants history).count b ≤ (subjectGrants history).count a + 1) ∧
    (∀ k a b, a ≠ b →
      (∀ p ∈ history, (sessionGrant k (p.1.grantee p.2)).isSome →
        Servable p.1.sched (p.1.sched.subject k) a ∧ Servable p.1.sched (p.1.sched.subject k) b) →
      KeepsPlaces (fun st m => m ∈ (st.sched.subject k).sessions) (sessionGrants k) a b history →
      (sessionGrants k history).count a ≤ (sessionGrants k history).count b + 1 ∧
        (sessionGrants k history).count b ≤ (sessionGrants k history).count a + 1) := by
  have ok := reachable_ok positive reachable
  have visited := (run_ok run ok).2
  constructor
  · intro a b different able keeps
    apply balanced_of_rounds (fun st => st.sched.rotor.order) (fun st => Grantable st.sched)
      (fun st a => subjectGrant (st.grantee a)) (outer_rounds ok run) ok.outer.nodup different
    · refine keepsTurn_of_keepsPlaces (fun p visit c => ?_) (fun p visit next taken c => ?_) keeps
      · exact (visited p visit).outer.covers c
      · exact (step_ok (visited p visit) taken).outer.covers c
    · exact fun p visit hit => able p visit (granted_of_subjectGrant hit)
    · rintro p visit c ⟨subj, found, -⟩
      exact mem_order_of_found (visited p visit) found
  · intro k a b different able keeps
    apply balanced_of_rounds (fun st => sessionRing k st.sched)
      (fun st => Servable st.sched (st.sched.subject k)) (fun st a => sessionGrant k (st.grantee a))
      (inner_rounds ok run k) (subject_accounted ok k).nodup different
    · refine keepsTurn_of_keepsPlaces (fun p visit c => ?_) (fun p visit next taken c => ?_) keeps
      · exact mem_sessionRing (visited p visit)
      · exact mem_sessionRing (step_ok (visited p visit) taken)
    · exact able
    · rintro p visit c ⟨cs, entry, -⟩
      exact (mem_sessionRing (visited p visit)).mpr (AList.lookup_isSome.mp (by simp [entry]))

theorem keepsPlaces_of_stay {present : System → String → Prop}
    {grantsOf : List (System × Action) → List String} {a b : String}
    {history : List (System × Action)}
    (stay : ∀ p ∈ history, ∀ next, p.1.step p.2 = some next → present next a ∧ present next b)
    (taken : ∀ p ∈ history, (p.1.step p.2).isSome) :
    KeepsPlaces present grantsOf a b history := by
  intro before p after c split choice _ gone
  have visit : p ∈ history := by simp [split]
  obtain ⟨next, step⟩ := Option.isSome_iff_exists.mp (taken p visit)
  obtain ⟨stayA, stayB⟩ := stay p visit next step
  rcases choice with rfl | rfl
  · exact absurd stayA (gone next step)
  · exact absurd stayB (gone next step)

-- Two sessions of `a` against one of `b`.
theorem fair_share_of_two : ∃ st history st', Reachable 8 true 8 st ∧
    Run System.step st history st' ∧ subjectGrants history = ["a", "b", "a", "b"] ∧
    (subjectGrants history).count "a" ≤ (subjectGrants history).count "b" + 1 := by
  obtain ⟨st, history, st', begun, finished, traced, able, stay, granted⟩ : ∃ st history st',
      exec System.step (.start ⟨8, 0, false⟩ true 8)
        [.enqueue ⟨"a", "x"⟩, .enqueue ⟨"a", "y"⟩, .enqueue ⟨"a", "x"⟩, .enqueue ⟨"b", "x"⟩,
          .enqueue ⟨"b", "x"⟩, .enqueue ⟨"b", "x"⟩] = some st ∧
      exec System.step st [.tick, .pass, .tick, .pass, .tick, .pass, .tick, .pass] = some st' ∧
      history = trace System.step st [.tick, .pass, .tick, .pass, .tick, .pass, .tick, .pass] ∧
      (∀ p ∈ history, (p.1.granted p.2).isSome →
        Grantable p.1.sched "a" ∧ Grantable p.1.sched "b") ∧
      (∀ p ∈ history, (p.1.step p.2).any fun next =>
        "a" ∈ next.sched.subjects ∧ "b" ∈ next.sched.subjects) ∧
      subjectGrants history = ["a", "b", "a", "b"] :=
    ⟨_, _, _, rfl, rfl, rfl, by decide, by decide, rfl⟩
  have reachable : Reachable 8 true 8 st := ⟨_, run_of_exec begun⟩
  have run : Run System.step st history st' := traced ▸ run_of_exec finished
  have keeps : KeepsPlaces (fun st c => c ∈ st.sched.subjects) subjectGrants "a" "b" history := by
    refine keepsPlaces_of_stay (fun p visit next step => ?_) fun p visit => ?_
    · simpa [step] using stay p visit
    · exact Option.isSome_of_any (stay p visit)
  exact ⟨st, history, st', reachable, run, granted,
    ((fair_share 8 true 8 (by decide) reachable run).1 "a" "b" (by decide) able keeps).1⟩

/-- A subject whose only waiter gives up and queues again goes to the back and loses its turn, so
the share of the other is not bounded by its own. -/
theorem share_lost_by_reentry : ¬ ∀ (cap : Nat) (enabled : Bool) (limit : Int) (st st' : System)
    (history : List (System × Action)) (a b : String), 1 ≤ cap → Reachable cap enabled limit st →
    Run System.step st history st' → a ≠ b →
    (∀ p ∈ history, (p.1.granted p.2).isSome → Grantable p.1.sched a ∧ Grantable p.1.sched b) →
    (subjectGrants history).count a ≤ (subjectGrants history).count b + 1 := by
  intro law
  obtain ⟨st, history, st', begun, finished, traced, able, granted⟩ : ∃ st history st',
      exec System.step (.start ⟨8, 0, false⟩ true 8)
        [.enqueue ⟨"a", "x"⟩, .enqueue ⟨"a", "x"⟩, .enqueue ⟨"b", "x"⟩] = some st ∧
      exec System.step st [.tick, .pass, .abandon 2, .enqueue ⟨"b", "x"⟩, .tick, .pass] =
        some st' ∧
      history = trace System.step st
        [.tick, .pass, .abandon 2, .enqueue ⟨"b", "x"⟩, .tick, .pass] ∧
      (∀ p ∈ history, (p.1.granted p.2).isSome →
        Grantable p.1.sched "a" ∧ Grantable p.1.sched "b") ∧
      subjectGrants history = ["a", "a"] := ⟨_, _, _, rfl, rfl, rfl, by decide, rfl⟩
  have bound := law 8 true 8 st st' history "a" "b" (by decide) ⟨_, run_of_exec begun⟩
    (traced ▸ run_of_exec finished) (by decide) able
  simp [granted] at bound

end BrokerMcp.Proof.Scheduler
