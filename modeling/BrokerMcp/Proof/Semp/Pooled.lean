import BrokerMcp.Library.Cells
import BrokerMcp.Proof.Semp.Budget

namespace BrokerMcp.Proof.Semp
open Resilience BrokerMcp.Semp
open Transition

/-! ## What holds of a pool -/

section pool

variable (cfg : SEMPConfig) (toLower : String → String)
variable (clients : List (String × BrokerClient)) (gates : List Admission)

def Fresh (canonical : String) (made : Shared) : Prop :=
  ∃ g adm, made = shared cfg g ∧ gates[g]? = some adm ∧ adm.owner = canonical ∧ adm.callers = []

def HaltOk (made : Shared) : Halt → Prop
  | .limiter => ∃ adm, gates[made.limiter]? = some adm ∧ Exited adm.senders.gate
  | _ => True

def BuildOk (canonical : String) : Build → Prop
  | .authenticating => True
  | .sempV1 made => Fresh cfg gates canonical made
  | .sempV2 made client => Fresh cfg gates canonical made ∧ client = ⟨.sempV1, made⟩
  | .stopAll made halt _ => Fresh cfg gates canonical made ∧ HaltOk gates made halt

def TaskOk : Task → Prop
  | .lookup query (.building _ build) =>
      clients.lookup (toLower query.brokerAlias) = none ∧
        BuildOk cfg gates (toLower query.brokerAlias) build
  | .lookup _ (.failed (some g) _) => ∃ adm, gates[g]? = some adm ∧ Stopped adm
  | .lookup query (.found client) => clients.lookup (toLower query.brokerAlias) = some client
  | _ => True

structure Installed (canonical : String) (client : BrokerClient) (g : Nat) : Prop where
  sempV1Client : client.sempV1Client = ⟨.sempV1, shared cfg g⟩
  sempV2Client : client.sempV2Client = ⟨.sempV2, shared cfg g⟩
  shared : client.shared = shared cfg g
  owner : ∃ adm, gates[g]? = some adm ∧ adm.owner = canonical

end pool

def buildMade : Build → Option Nat
  | .authenticating => none
  | .sempV1 made | .sempV2 made _ | .stopAll made _ _ => some made.limiter

def taskMade : Task → Option Nat
  | .lookup _ (.building _ build) => buildMade build
  | .lookup _ (.failed made _) => made
  | _ => none

/-- A client holds the objects, or a task has made them and installed no client. -/
def Held (cfg : SEMPConfig) (clients : List (String × BrokerClient)) (tasks : List Task) (g : Nat) :
    Prop :=
  (∃ canonical client, clients.lookup canonical = some client ∧ client.shared = shared cfg g) ∨
    ∃ (i : Nat) (task : Task), tasks[i]? = some task ∧ taskMade task = some g

structure PoolOk (cfg : SEMPConfig) (toLower : String → String) (p : Pool) : Prop where
  locked : ∀ (i : Nat) (task : Task), p.tasks[i]? = some task → task.locked = true →
    p.writer = some i
  tasks : ∀ (i : Nat) (task : Task), p.tasks[i]? = some task →
    TaskOk cfg toLower p.clients p.gates task
  installed : ∀ canonical client, p.clients.lookup canonical = some client →
    ∃ g, Installed cfg p.gates canonical client g
  gates : ∀ (g : Nat) (adm : Admission), p.gates[g]? = some adm → AdmissionOk cfg adm
  used : ∀ (g : Nat) (adm : Admission), p.gates[g]? = some adm → adm.callers ≠ [] →
    ∃ client, p.clients.lookup adm.owner = some client ∧ client.shared = shared cfg g
  held : ∀ g < p.gates.length, Held cfg p.clients p.tasks g

variable {cfg : SEMPConfig} {toLower : String → String} {p p' : Pool} {i : Nat} {task task' : Task}

theorem poolOk_start : PoolOk cfg toLower newBrokerPool where
  locked _ _ here _ := absurd here (by simp [newBrokerPool])
  tasks _ _ here := absurd here (by simp [newBrokerPool])
  installed _ _ here := absurd here (by simp [newBrokerPool])
  gates _ _ here := absurd here (by simp [newBrokerPool])
  used _ _ here _ := absurd here (by simp [newBrokerPool])
  held _ inside := absurd inside (by simp [newBrokerPool])

theorem Held.set {clients : List (String × BrokerClient)} {tasks : List Task} {g : Nat}
    (held : Held cfg clients tasks g) (here : tasks[i]? = some task)
    (kept : taskMade task' = taskMade task) : Held cfg clients (tasks.set i task') g := by
  refine held.imp_right ?_
  rintro ⟨j, other, found, made⟩
  by_cases same : j = i
  · subst same
    obtain rfl := Option.some.inj (here.symm.trans found)
    exact ⟨j, task', by rw [Cells.getElem?_set_of_some here, if_pos rfl], kept.trans made⟩
  · exact ⟨j, other, by rw [Cells.getElem?_set_of_some here, if_neg same, found], made⟩

theorem PoolOk.queue (ok : PoolOk cfg toLower p) (unlocked : task.locked = false)
    (fine : TaskOk cfg toLower p.clients p.gates task) :
    PoolOk cfg toLower { p with tasks := p.tasks ++ [task] } := by
  refine ⟨?_, Cells.forall_snoc ok.tasks fine, ok.installed, ok.gates, ok.used, ?_⟩
  · exact Cells.forall_snoc ok.locked fun locked => by simp [unlocked] at locked
  · intro g inside
    refine (ok.held g inside).imp_right ?_
    rintro ⟨j, other, found, made⟩
    exact ⟨j, other, by rw [List.getElem?_append_left (Cells.lt_of_some found), found], made⟩

theorem PoolOk.set (ok : PoolOk cfg toLower p) (here : p.tasks[i]? = some task)
    (held : task'.locked = true → task.locked = true) (fine : TaskOk cfg toLower p.clients p.gates task')
    (kept : taskMade task' = taskMade task) : PoolOk cfg toLower (p.set i task') := by
  refine ⟨?_, Cells.forall_set here ok.tasks fine, ok.installed, ok.gates, ok.used,
    fun g inside => (ok.held g inside).set here kept⟩
  exact Cells.forall_set here ok.locked fun locked => ok.locked i task here (held locked)

theorem PoolOk.lock (ok : PoolOk cfg toLower p) (here : p.tasks[i]? = some task)
    (unheld : p.writer = none) (fine : TaskOk cfg toLower p.clients p.gates task')
    (kept : taskMade task' = taskMade task) :
    PoolOk cfg toLower { p.set i task' with writer := some i } := by
  refine ⟨?_, Cells.forall_set here ok.tasks fine, ok.installed, ok.gates, ok.used,
    fun g inside => (ok.held g inside).set here kept⟩
  refine Cells.forall_set here ?_ fun _ => rfl
  intro j other found locked
  have holder := ok.locked j other found locked
  rw [unheld] at holder
  cases holder

theorem PoolOk.unlock (ok : PoolOk cfg toLower p) (here : p.tasks[i]? = some task)
    (held : task.locked = true) (unlocked : task'.locked = false)
    (fine : TaskOk cfg toLower p.clients p.gates task') (kept : taskMade task' = taskMade task) :
    PoolOk cfg toLower (p.unlock i task') := by
  refine ⟨?_, Cells.forall_set here ok.tasks fine, ok.installed, ok.gates, ok.used,
    fun g inside => (ok.held g inside).set here kept⟩
  intro j other found locked
  have found : (p.tasks.set i task')[j]? = some other := found
  rw [Cells.getElem?_set_of_some here] at found
  split_ifs at found with same
  · obtain rfl := Option.some.inj found
    rw [unlocked] at locked
    cases locked
  · have holder := ok.locked j other found locked
    rw [ok.locked i task here held] at holder
    exact absurd (Option.some.inj holder).symm same

/-! ## Steps of a gate -/

def Drifts (clients : List (String × BrokerClient)) (gates gates' : List Admission) : Prop :=
  ∀ (g : Nat) (adm : Admission), gates[g]? = some adm →
    ∃ adm', gates'[g]? = some adm' ∧ Evolves adm adm' ∧
      (clients.lookup adm.owner = none → adm'.callers = adm.callers)

section drift

variable {clients : List (String × BrokerClient)} {gates gates' : List Admission}

theorem drifts_set {g : Nat} {adm adm' : Admission} (here : gates[g]? = some adm)
    (evolves : Evolves adm adm') (unused : clients.lookup adm.owner = none → adm'.callers = adm.callers) :
    Drifts clients gates (gates.set g adm') := by
  intro k other found
  rw [Cells.getElem?_set_of_some here]
  split_ifs with same
  · subst same
    obtain rfl := Option.some.inj (here.symm.trans found)
    exact ⟨adm', rfl, evolves, unused⟩
  · exact ⟨other, found, ⟨rfl, id, id⟩, fun _ => rfl⟩

theorem drifts_append (made : Admission) : Drifts clients gates (gates ++ [made]) := by
  intro k other found
  refine ⟨other, ?_, ⟨rfl, id, id⟩, fun _ => rfl⟩
  rw [List.getElem?_append_left (Cells.lt_of_some found), found]

theorem Fresh.drift {canonical : String} {made : Shared} (fresh : Fresh cfg gates canonical made)
    (absent : clients.lookup canonical = none) (drifts : Drifts clients gates gates') :
    Fresh cfg gates' canonical made := by
  obtain ⟨g, adm, named, here, owner, unused⟩ := fresh
  obtain ⟨adm', there, evolves, same⟩ := drifts g adm here
  exact ⟨g, adm', named, there, evolves.owner.trans owner, (same (owner ▸ absent)).trans unused⟩

theorem HaltOk.drift {made : Shared} {halt : Halt} (ok : HaltOk gates made halt)
    (drifts : Drifts clients gates gates') : HaltOk gates' made halt := by
  cases halt with
  | scheduler | done => trivial
  | limiter =>
      obtain ⟨adm, here, exited⟩ := ok
      obtain ⟨adm', there, evolves, -⟩ := drifts _ adm here
      exact ⟨adm', there, evolves.exited exited⟩

theorem TaskOk.drift (ok : TaskOk cfg toLower clients gates task)
    (drifts : Drifts clients gates gates') : TaskOk cfg toLower clients gates' task := by
  cases task with
  | close phase => trivial
  | lookup query phase =>
      cases phase with
      | started | missed | checking => trivial
      | found client => exact ok
      | failed made err =>
          cases made with
          | none => trivial
          | some g =>
              obtain ⟨adm, here, stopped⟩ := ok
              obtain ⟨adm', there, evolves, -⟩ := drifts g adm here
              exact ⟨adm', there, evolves.stopped stopped⟩
      | building displayName build =>
          obtain ⟨absent, fine⟩ := ok
          refine ⟨absent, ?_⟩
          cases build with
          | authenticating => trivial
          | sempV1 made => exact Fresh.drift fine absent drifts
          | sempV2 made client => exact ⟨fine.1.drift absent drifts, fine.2⟩
          | stopAll made halt err => exact ⟨fine.1.drift absent drifts, fine.2.drift drifts⟩

theorem Installed.drift {canonical : String} {client : BrokerClient} {g : Nat}
    (installed : Installed cfg gates canonical client g) (drifts : Drifts clients gates gates') :
    Installed cfg gates' canonical client g := by
  obtain ⟨adm, here, owner⟩ := installed.owner
  obtain ⟨adm', there, evolves, -⟩ := drifts g adm here
  exact ⟨installed.sempV1Client, installed.sempV2Client, installed.shared, adm', there,
    evolves.owner.trans owner⟩

end drift

theorem PoolOk.gate (ok : PoolOk cfg toLower p) {g : Nat} {adm adm' : Admission}
    (here : p.gates[g]? = some adm) (fine : AdmissionOk cfg adm') (evolves : Evolves adm adm')
    (unused : adm'.callers = adm.callers ∨
      ∃ client, p.clients.lookup adm.owner = some client ∧ client.shared = shared cfg g) :
    PoolOk cfg toLower { p with gates := p.gates.set g adm' } := by
  have drifts : Drifts p.clients p.gates (p.gates.set g adm') := by
    refine drifts_set here evolves fun absent => ?_
    rcases unused with same | ⟨client, known, -⟩
    · exact same
    · rw [absent] at known
      cases known
  refine ⟨ok.locked, ?_, ?_, Cells.forall_set here ok.gates fine, ?_, ?_⟩
  · intro j other found
    exact (ok.tasks j other found).drift drifts
  · intro canonical client known
    obtain ⟨k, installed⟩ := ok.installed canonical client known
    exact ⟨k, installed.drift drifts⟩
  · refine Cells.forall_set here ok.used ?_
    intro called
    rw [evolves.owner]
    rcases unused with same | known
    · exact ok.used g adm here (same ▸ called)
    · exact known
  · simpa using ok.held

theorem onGate_some {g : Nat} {f : Admission → Option Admission} (done : p.onGate g f = some p') :
    ∃ adm adm', p.gates[g]? = some adm ∧ f adm = some adm' ∧
      p' = { p with gates := p.gates.set g adm' } := by
  obtain ⟨adm, here, done⟩ := Option.bind_eq_some_iff.mp done
  obtain ⟨adm', changed, done⟩ := Option.bind_eq_some_iff.mp done
  exact ⟨adm, adm', here, changed, (Option.some.inj done).symm⟩

/-! ## Stopping -/

structure Halted (cfg : SEMPConfig) (toLower : String → String) (p p' : Pool) : Prop where
  ok : PoolOk cfg toLower p'
  clients : p'.clients = p.clients
  tasks : p'.tasks = p.tasks
  drifts : Drifts p.clients p.gates p'.gates

theorem PoolOk.change (ok : PoolOk cfg toLower p) {g : Nat} {adm adm' : Admission}
    (here : p.gates[g]? = some adm) (fine : AdmissionOk cfg adm') (evolves : Evolves adm adm')
    (same : adm'.callers = adm.callers) :
    Halted cfg toLower p { p with gates := p.gates.set g adm' } :=
  ⟨ok.gate here fine evolves (.inl same), rfl, rfl, drifts_set here evolves fun _ => same⟩

theorem Halted.refl (ok : PoolOk cfg toLower p) : Halted cfg toLower p p :=
  ⟨ok, rfl, rfl, fun _ adm here => ⟨adm, here, ⟨rfl, id, id⟩, fun _ => rfl⟩⟩

theorem PoolOk.halt (ok : PoolOk cfg toLower p) {made : Shared} {halt : Halt} {next : Option Halt}
    (halts : p.halt made halt = some (p', next)) : Halted cfg toLower p p' := by
  cases halt with
  | scheduler =>
      simp only [Pool.halt] at halts
      split at halts
      · cases halts
        exact .refl ok
      · obtain ⟨q, done, same⟩ := Option.map_eq_some_iff.mp halts
        cases same
        obtain ⟨adm, adm', here, acts, rfl⟩ := onGate_some done
        obtain ⟨fine, evolves, same⟩ := act_ok (ok.gates _ _ here) acts nofun
        exact ok.change here fine evolves same
  | done =>
      obtain ⟨k, -, halts⟩ := Option.bind_eq_some_iff.mp halts
      obtain ⟨adm, -, halts⟩ := Option.bind_eq_some_iff.mp halts
      split_ifs at halts
      cases halts
      exact .refl ok
  | limiter =>
      obtain ⟨q, done, same⟩ := Option.map_eq_some_iff.mp halts
      cases same
      obtain ⟨adm, adm', here, stops, rfl⟩ := onGate_some done
      obtain ⟨fine, evolves, same, -⟩ := stopLimiter_ok (ok.gates _ _ here) stops
      exact ok.change here fine evolves same

theorem PoolOk.halt_progress (ok : PoolOk cfg toLower p) {canonical : String} {made : Shared}
    {halt halt' : Halt} (fresh : Fresh cfg p.gates canonical made)
    (halts : p.halt made halt = some (p', some halt')) : HaltOk p'.gates made halt' := by
  obtain ⟨g, adm, rfl, here, -, -⟩ := fresh
  cases halt with
  | scheduler =>
      simp only [Pool.halt] at halts
      split at halts
      · next unscheduled =>
          cases halts
          refine ⟨adm, here, ?_⟩
          have fair := (ok.gates g adm here).fair
          cases gate : adm.senders.gate with
          | unscheduled sem => trivial
          | scheduled st =>
              rw [gate] at fair
              have fair : true = cfg.fair := fair
              simp [shared, ← fair] at unscheduled
      · obtain ⟨q, -, same⟩ := Option.map_eq_some_iff.mp halts
        cases same
        trivial
  | done =>
      obtain ⟨k, named, halts⟩ := Option.bind_eq_some_iff.mp halts
      obtain ⟨other, found, halts⟩ := Option.bind_eq_some_iff.mp halts
      split_ifs at halts with exited
      cases halts
      obtain rfl : g = k := by
        simp only [shared] at named
        split_ifs at named
        exact Option.some.inj named
      exact ⟨other, found, exited_of_done (ok.gates _ _ found) exited⟩
  | limiter =>
      obtain ⟨q, -, same⟩ := Option.map_eq_some_iff.mp halts
      cases same

theorem PoolOk.halt_last (ok : PoolOk cfg toLower p) {made : Shared} {halt : Halt}
    (exited : HaltOk p.gates made halt) (halts : p.halt made halt = some (p', none)) :
    ∃ adm, p'.gates[made.limiter]? = some adm ∧ Stopped adm := by
  cases halt with
  | scheduler =>
      simp only [Pool.halt] at halts
      split at halts
      · cases halts
      · obtain ⟨q, -, same⟩ := Option.map_eq_some_iff.mp halts
        cases same
  | done =>
      obtain ⟨k, -, halts⟩ := Option.bind_eq_some_iff.mp halts
      obtain ⟨other, -, halts⟩ := Option.bind_eq_some_iff.mp halts
      split_ifs at halts
      cases halts
  | limiter =>
      obtain ⟨q, done, same⟩ := Option.map_eq_some_iff.mp halts
      cases same
      obtain ⟨adm, adm', here, stops, rfl⟩ := onGate_some done
      obtain ⟨-, evolves, -, stopped⟩ := stopLimiter_ok (ok.gates _ _ here) stops
      obtain ⟨before, found, exited⟩ := exited
      obtain rfl := Option.some.inj (here.symm.trans found)
      refine ⟨adm', ?_, stopped, evolves.exited exited⟩
      show (p.gates.set made.limiter adm')[made.limiter]? = some adm'
      rw [Cells.getElem?_set_of_some here, if_pos rfl]

/-! ## Making and installing -/

theorem PoolOk.allocate (ok : PoolOk cfg toLower p) {query : Query} {displayName : String}
    (here : p.tasks[i]? = some (.lookup query (.building displayName .authenticating))) :
    PoolOk cfg toLower
      { p.set i (.lookup query (.building displayName (.sempV1 (shared cfg p.gates.length)))) with
        gates := p.gates ++ [.new cfg (toLower query.brokerAlias)] } := by
  have drifts : Drifts p.clients p.gates (p.gates ++ [.new cfg (toLower query.brokerAlias)]) :=
    drifts_append _
  have absent := (ok.tasks i _ here).1
  refine ⟨?_, ?_, ?_, Cells.forall_snoc ok.gates (new_ok cfg _), ?_, ?_⟩
  · exact Cells.forall_set here ok.locked fun _ => ok.locked i _ here rfl
  · refine Cells.forall_set here ?_
      ⟨absent, p.gates.length, .new cfg (toLower query.brokerAlias), rfl, ?_, rfl, rfl⟩
    · intro j other found
      exact (ok.tasks j other found).drift drifts
    · rw [Cells.getElem?_snoc, if_pos rfl]
  · intro canonical client known
    obtain ⟨k, installed⟩ := ok.installed canonical client known
    exact ⟨k, installed.drift drifts⟩
  · exact Cells.forall_snoc ok.used fun called => absurd rfl called
  · intro g inside
    rw [List.length_append, List.length_singleton, Nat.lt_succ_iff_lt_or_eq] at inside
    rcases inside with older | rfl
    · refine (ok.held g older).imp_right ?_
      rintro ⟨j, other, found, made⟩
      have apart : j ≠ i := by
        rintro rfl
        obtain rfl := Option.some.inj (here.symm.trans found)
        cases made
      exact ⟨j, other, (Cells.getElem?_set_of_some here _ _).trans ((if_neg apart).trans found), made⟩
    · exact .inr ⟨i, _, (Cells.getElem?_set_of_some here _ _).trans (if_pos rfl), rfl⟩

theorem TaskOk.install {clients : List (String × BrokerClient)} {gates : List Admission}
    {canonical : String} (ok : TaskOk cfg toLower clients gates task)
    (unlocked : task.locked = false) (absent : clients.lookup canonical = none)
    (client : BrokerClient) : TaskOk cfg toLower (Assoc.put canonical client clients) gates task := by
  cases task with
  | close phase => trivial
  | lookup query phase =>
      cases phase with
      | started | missed | checking => trivial
      | building displayName build => cases unlocked
      | failed made err =>
          cases made with
          | none => trivial
          | some g => exact ok
      | found other =>
          have known : clients.lookup (toLower query.brokerAlias) = some other := ok
          show (Assoc.put canonical client clients).lookup (toLower query.brokerAlias) = some other
          rw [Assoc.lookup_put, if_neg]
          · exact known
          · intro same
            rw [same, absent] at known
            cases known

theorem PoolOk.install (ok : PoolOk cfg toLower p) {query : Query} {displayName : String}
    {made : Shared} {first : HTTPClient}
    (here : p.tasks[i]? = some (.lookup query (.building displayName (.sempV2 made first))))
    {client : BrokerClient} (built : client = ⟨displayName, first, ⟨.sempV2, made⟩, made⟩) :
    PoolOk cfg toLower { p.unlock i (.lookup query (.found client)) with
      clients := Assoc.put (toLower query.brokerAlias) client p.clients } := by
  obtain ⟨absent, ⟨g, adm, rfl, there, owner, -⟩, rfl⟩ := ok.tasks i _ here
  have holder := ok.locked i _ here rfl
  have alone : ∀ (j : Nat) (other : Task), p.tasks[j]? = some other → j ≠ i → other.locked = false := by
    intro j other found apart
    by_contra locked
    rw [ok.locked j other found (by simpa using locked)] at holder
    exact apart (Option.some.inj holder)
  have known : (Assoc.put (toLower query.brokerAlias) client p.clients).lookup
      (toLower query.brokerAlias) = some client := by
    rw [Assoc.lookup_put, if_pos rfl]
  refine ⟨?_, ?_, ?_, ok.gates, ?_, ?_⟩
  · intro j other found locked
    have found : (p.tasks.set i _)[j]? = some other := found
    rw [Cells.getElem?_set_of_some here] at found
    split_ifs at found with same
    · obtain rfl := Option.some.inj found
      cases locked
    · rw [alone j other found same] at locked
      cases locked
  · intro j other found
    have found : (p.tasks.set i _)[j]? = some other := found
    rw [Cells.getElem?_set_of_some here] at found
    split_ifs at found with same
    · obtain rfl := Option.some.inj found
      exact known
    · exact (ok.tasks j other found).install (alone j other found same) absent client
  · intro canonical other found
    have found : (Assoc.put (toLower query.brokerAlias) client p.clients).lookup canonical =
      some other := found
    rw [Assoc.lookup_put] at found
    split_ifs at found with same
    · obtain rfl := Option.some.inj found
      subst built
      exact ⟨g, rfl, rfl, rfl, adm, there, owner.trans same.symm⟩
    · exact ok.installed canonical other found
  · intro k other found called
    obtain ⟨before, was, held⟩ := ok.used k other found called
    refine ⟨before, ?_, held⟩
    show (Assoc.put (toLower query.brokerAlias) client p.clients).lookup other.owner = some before
    rw [Assoc.lookup_put, if_neg]
    · exact was
    · intro same
      rw [same, absent] at was
      cases was
  · intro k inside
    rcases ok.held k inside with ⟨canonical, other, was, held⟩ | ⟨j, other, found, made⟩
    · refine .inl ⟨canonical, other, ?_, held⟩
      show (Assoc.put (toLower query.brokerAlias) client p.clients).lookup canonical = some other
      rw [Assoc.lookup_put, if_neg]
      · exact was
      · intro same
        rw [same, absent] at was
        cases was
    · by_cases same : j = i
      · subst same
        obtain rfl := Option.some.inj (here.symm.trans found)
        obtain rfl : g = k := Option.some.inj made
        exact .inl ⟨_, client, known, by rw [built]⟩
      · exact .inr ⟨j, other, (Cells.getElem?_set_of_some here _ _).trans ((if_neg same).trans found), made⟩

/-! ## Every step -/

def installs (toLower : String → String) (canonical : String) : Pool × PoolAction → Bool
  | (p, .advance i .succeeds) =>
      match p.tasks[i]? with
      | some (.lookup query (.building _ (.sempV2 _ _))) => toLower query.brokerAlias = canonical
      | _ => false
  | _ => false

def vacant (canonical : String) (p : Pool) : Nat := (p.clients.lookup canonical).isNone.toNat

structure Advanced (cfg : SEMPConfig) (toLower : String → String) (p : Pool) (a : PoolAction)
    (p' : Pool) : Prop where
  ok : PoolOk cfg toLower p'
  once : ∀ canonical,
    (installs toLower canonical (p, a)).toNat + vacant canonical p' ≤ vacant canonical p

theorem PoolOk.advanced {a : PoolAction} (ok : PoolOk cfg toLower p') (same : p'.clients = p.clients)
    (other : ∀ canonical, installs toLower canonical (p, a) = false) :
    Advanced cfg toLower p a p' := by
  refine ⟨ok, fun canonical => ?_⟩
  rw [other, vacant, vacant, same, Bool.toNat_false, Nat.zero_add]

theorem installs_advance (toLower : String → String) (move : PoolMove)
    (here : p.tasks[i]? = some task)
    (other : ∀ query displayName made first,
      task ≠ .lookup query (.building displayName (.sempV2 made first))) (canonical : String) :
    installs toLower canonical (p, .advance i move) = false := by
  cases move with
  | succeeds =>
      simp only [installs, here]
      split
      · next same => exact absurd (Option.some.inj same) (other _ _ _ _)
      · rfl
  | read | lock | check | fails | halt | close => rfl

theorem PoolOk.construct (ok : PoolOk cfg toLower p) {query : Query} {displayName : String}
    {build : Build} {move : PoolMove}
    (here : p.tasks[i]? = some (.lookup query (.building displayName build)))
    (done : p.construct cfg toLower i query displayName build move = some p') :
    Advanced cfg toLower p (.advance i move) p' := by
  obtain ⟨absent, fine⟩ := ok.tasks i _ here
  cases build with
  | authenticating =>
      have other := installs_advance toLower move here nofun
      cases move with
      | fails err =>
          obtain rfl := Option.some.inj done
          exact PoolOk.advanced (ok.unlock here rfl rfl trivial rfl) rfl other
      | succeeds =>
          obtain rfl := Option.some.inj done
          exact PoolOk.advanced (ok.allocate here) rfl other
      | read | lock | check | halt | close => cases done
  | sempV1 made =>
      have other := installs_advance toLower move here nofun
      cases move with
      | fails err =>
          obtain rfl := Option.some.inj done
          exact PoolOk.advanced (ok.set here (fun _ => rfl) ⟨absent, fine, trivial⟩ rfl) rfl other
      | succeeds =>
          obtain rfl := Option.some.inj done
          exact PoolOk.advanced (ok.set here (fun _ => rfl) ⟨absent, fine, rfl⟩ rfl) rfl other
      | read | lock | check | halt | close => cases done
  | sempV2 made first =>
      cases move with
      | fails err =>
          obtain rfl := Option.some.inj done
          exact PoolOk.advanced (ok.set here (fun _ => rfl) ⟨absent, fine.1, trivial⟩ rfl) rfl fun _ => rfl
      | succeeds =>
          obtain rfl := Option.some.inj done
          refine ⟨ok.install here rfl, fun canonical => ?_⟩
          simp only [installs, here, vacant]
          show _ + (List.lookup canonical (Assoc.put _ _ p.clients)).isNone.toNat ≤ _
          rw [Assoc.lookup_put]
          by_cases same : toLower query.brokerAlias = canonical
          · subst same
            simp [absent]
          · simp [same, Ne.symm same]
      | read | lock | check | halt | close => cases done
  | stopAll made halt err =>
      have other := installs_advance toLower move here nofun
      cases move with
      | halt =>
          obtain ⟨⟨q, next⟩, halts, done⟩ := Option.bind_eq_some_iff.mp done
          have halted := ok.halt halts
          have there : q.tasks[i]? = some _ := halted.tasks ▸ here
          cases next with
          | some halt' =>
              obtain rfl := Option.some.inj done
              have still := fine.1.drift absent halted.drifts
              have progress := ok.halt_progress fine.1 halts
              exact PoolOk.advanced (halted.ok.set there (fun _ => rfl)
                ⟨halted.clients ▸ absent, still, progress⟩ rfl) halted.clients other
          | none =>
              obtain rfl := Option.some.inj done
              have stopped := ok.halt_last fine.2 halts
              exact PoolOk.advanced (halted.ok.unlock there rfl rfl stopped rfl) halted.clients other
      | read | lock | check | fails | succeeds | close => cases done

theorem lock_some (done : p.lock i task' = some p') :
    p.writer = none ∧ p' = { p.set i task' with writer := some i } := by
  obtain ⟨unheld, done⟩ := Option.ite_none_left_eq_some.mp done
  exact ⟨by simpa using unheld, (Option.some.inj done).symm⟩

theorem PoolOk.advanceLookup (ok : PoolOk cfg toLower p) {source : String → Option String}
    {query : Query} {phase : Lookup} {move : PoolMove}
    (here : p.tasks[i]? = some (.lookup query phase))
    (done : p.advanceLookup cfg toLower source i query phase move = some p') :
    Advanced cfg toLower p (.advance i move) p' := by
  cases phase with
  | started =>
      have other := installs_advance toLower move here nofun
      cases move with
      | read =>
          obtain ⟨-, done⟩ := Option.ite_none_left_eq_some.mp done
          split at done
          · next client known =>
              obtain rfl := Option.some.inj done
              exact PoolOk.advanced (ok.set here nofun known rfl) rfl other
          · obtain rfl := Option.some.inj done
            exact PoolOk.advanced (ok.set here nofun trivial rfl) rfl other
      | lock | check | fails | succeeds | halt | close => cases done
  | missed =>
      have other := installs_advance toLower move here nofun
      cases move with
      | lock =>
          obtain ⟨unheld, rfl⟩ := lock_some done
          exact PoolOk.advanced (ok.lock here unheld trivial rfl) rfl other
      | read | check | fails | succeeds | halt | close => cases done
  | checking =>
      have other := installs_advance toLower move here nofun
      cases move with
      | check =>
          simp only [Pool.advanceLookup] at done
          split at done
          · next client known =>
              obtain rfl := Option.some.inj done
              exact PoolOk.advanced (ok.unlock here rfl rfl known rfl) rfl other
          · next absent =>
              split at done
              · obtain rfl := Option.some.inj done
                exact PoolOk.advanced (ok.unlock here rfl rfl trivial rfl) rfl other
              · obtain rfl := Option.some.inj done
                exact PoolOk.advanced (ok.set here (fun _ => rfl) ⟨absent, trivial⟩ rfl) rfl other
      | read | lock | fails | succeeds | halt | close => cases done
  | building displayName build => exact ok.construct here done
  | failed made err | found client => cases move <;> cases done

theorem PoolOk.advanceClose (ok : PoolOk cfg toLower p) {phase : Closing} {move : PoolMove}
    (here : p.tasks[i]? = some (.close phase)) (done : p.advanceClose i phase move = some p') :
    Advanced cfg toLower p (.advance i move) p' := by
  have other := installs_advance toLower move here nofun
  cases phase with
  | started =>
      cases move with
      | close order =>
          obtain ⟨-, done⟩ := Option.ite_none_right_eq_some.mp done
          obtain ⟨unheld, rfl⟩ := lock_some done
          exact PoolOk.advanced (ok.lock here unheld trivial rfl) rfl other
      | read | lock | check | fails | succeeds | halt => cases done
  | closing halt clients =>
      cases move with
      | halt =>
          cases clients with
          | nil =>
              obtain rfl := Option.some.inj done
              exact PoolOk.advanced (ok.unlock here rfl rfl trivial rfl) rfl other
          | cons client rest =>
              obtain ⟨⟨q, next⟩, halts, done⟩ := Option.bind_eq_some_iff.mp done
              have halted := ok.halt halts
              have there : q.tasks[i]? = some _ := halted.tasks ▸ here
              cases next with
              | some halt' =>
                  obtain rfl := Option.some.inj done
                  exact PoolOk.advanced (halted.ok.set there (fun _ => rfl) trivial rfl) halted.clients other
              | none =>
                  obtain rfl := Option.some.inj done
                  exact PoolOk.advanced (halted.ok.set there (fun _ => rfl) trivial rfl) halted.clients other
      | read | lock | check | fails | succeeds | close => cases clients <;> cases done
  | closed => cases move <;> cases done

theorem gate_shared (protocol : Protocol) (g : Nat) : (HTTPClient.mk protocol (shared cfg g)).gate = g := by
  rw [HTTPClient.gate, shared]
  split_ifs
  · rfl
  · rfl

theorem Installed.gate {gates : List Admission} {canonical : String} {client : BrokerClient} {g : Nat}
    (installed : Installed cfg gates canonical client g) (protocol : Protocol) :
    (client.client protocol).gate = g := by
  cases protocol with
  | sempV1 =>
      rw [BrokerClient.client, installed.sempV1Client]
      exact gate_shared _ g
  | sempV2 =>
      rw [BrokerClient.client, installed.sempV2Client]
      exact gate_shared _ g

theorem PoolOk.request (ok : PoolOk cfg toLower p) {query : Query} {client : BrokerClient}
    {key : CallerKey} (here : p.tasks[i]? = some (.lookup query (.found client)))
    (done : p.onGate (client.client query.protocol).gate (fun adm =>
      (adm.senders.step (.call key)).map fun senders => { adm with
        senders
        callers := adm.callers ++ [⟨toLower query.brokerAlias, query.protocol⟩] }) = some p') :
    Advanced cfg toLower p (.request i key) p' := by
  have known := ok.tasks i _ here
  obtain ⟨g, installed⟩ := ok.installed _ client known
  obtain ⟨adm, adm', there, calls, rfl⟩ := onGate_some done
  rw [installed.gate] at there
  obtain ⟨senders, step, rfl⟩ := Option.map_eq_some_iff.mp calls
  obtain ⟨same, found, owner⟩ := installed.owner
  obtain rfl := Option.some.inj (there.symm.trans found)
  obtain ⟨fine, evolves⟩ :=
    request_ok ⟨toLower query.brokerAlias, query.protocol⟩ (ok.gates g adm there) step owner.symm
  rw [installed.gate]
  exact PoolOk.advanced (ok.gate there fine evolves (.inr ⟨client, owner ▸ known, installed.shared⟩)) rfl
    fun _ => rfl

theorem PoolOk.step (ok : PoolOk cfg toLower p) {source : String → Option String} {a : PoolAction}
    (taken : p.step cfg toLower source a = some p') : Advanced cfg toLower p a p' := by
  cases a with
  | get query =>
      obtain rfl := Option.some.inj taken
      exact PoolOk.advanced (ok.queue rfl trivial) rfl fun _ => rfl
  | close =>
      obtain rfl := Option.some.inj taken
      exact PoolOk.advanced (ok.queue rfl trivial) rfl fun _ => rfl
  | advance i move =>
      obtain ⟨task, here, done⟩ := Option.bind_eq_some_iff.mp taken
      cases task with
      | lookup query phase => exact ok.advanceLookup here done
      | close phase => exact ok.advanceClose here done
  | request i key =>
      obtain ⟨task, here, done⟩ := Option.bind_eq_some_iff.mp taken
      split at done
      · exact ok.request here done
      · cases done
  | activity g a =>
      obtain ⟨free, done⟩ := Option.ite_none_right_eq_some.mp taken
      obtain ⟨adm, adm', here, acts, rfl⟩ := onGate_some done
      have quiet : ∀ key, a ≠ .call key := by
        rintro key rfl
        cases free
      obtain ⟨fine, evolves, same⟩ := act_ok (ok.gates g adm here) acts quiet
      exact PoolOk.advanced (ok.gate here fine evolves (.inl same)) rfl fun _ => rfl

/-! ## The requests to a broker -/

theorem PoolOk.alone (ok : PoolOk cfg toLower p) {canonical : String} {g k : Nat} {adm other : Admission}
    (here : p.gates[g]? = some adm) (there : p.gates[k]? = some other)
    (calls : ∃ caller ∈ adm.callers, caller.canonical = canonical)
    (calls' : ∃ caller ∈ other.callers, caller.canonical = canonical) : g = k := by
  obtain ⟨caller, member, named⟩ := calls
  obtain ⟨caller', member', named'⟩ := calls'
  have owner := ((ok.gates g adm here).owned caller member).symm.trans named
  have owner' := ((ok.gates k other there).owned caller' member').symm.trans named'
  obtain ⟨client, known, held⟩ := ok.used g adm here (List.ne_nil_of_mem member)
  obtain ⟨client', known', held'⟩ := ok.used k other there (List.ne_nil_of_mem member')
  rw [owner] at known
  rw [owner', known] at known'
  obtain rfl := Option.some.inj known'
  exact congrArg Shared.sem (held.symm.trans held')

theorem PoolOk.requests_le (ok : PoolOk cfg toLower p) (canonical : String) :
    p.requests canonical ≤ (newSemaphore cfg.maxConcurrentPerBroker).cap := by
  have caller : ∀ adm : Admission, ((adm.senders.calls.zip adm.callers).countP fun entry =>
      entry.1.between && decide (entry.2.canonical = canonical)) ≠ 0 →
      ∃ caller ∈ adm.callers, caller.canonical = canonical := by
    intro adm some
    obtain ⟨entry, member, counted⟩ := List.countP_pos_iff.mp (Nat.pos_of_ne_zero some)
    refine ⟨entry.2, (List.of_mem_zip member).2, ?_⟩
    simp only [Bool.and_eq_true, decide_eq_true_eq] at counted
    exact counted.2
  apply Counting.sum_le_of_alone
  · intro adm member
    obtain ⟨g, here⟩ := List.mem_iff_getElem?.mp member
    have fewer := countP_zip_le adm.senders.calls adm.callers Call.between fun caller =>
      decide (caller.canonical = canonical)
    exact fewer.trans (ok.gates g adm here).between
  · intro g k adm other here there some some'
    exact ok.alone here there (caller adm some) (caller other some')

theorem PoolOk.stopped_or_held (ok : PoolOk cfg toLower p) {g : Nat} {adm : Admission}
    (here : p.gates[g]? = some adm) :
    Stopped adm ∨
      (∃ canonical client, p.clients.lookup canonical = some client ∧ client.shared = shared cfg g) ∨
      ∃ (i : Nat) (query : Query) (displayName : String) (build : Build),
        p.tasks[i]? = some (.lookup query (.building displayName build)) ∧
          buildMade build = some g := by
  rcases ok.held g (Cells.lt_of_some here) with installed | ⟨i, task, found, made⟩
  · exact .inr (.inl installed)
  · cases task with
    | close phase => cases made
    | lookup query phase =>
        cases phase with
        | started | missed | checking | found => cases made
        | building displayName build => exact .inr (.inr ⟨i, query, displayName, build, found, made⟩)
        | failed objects err =>
            obtain rfl : objects = some g := made
            obtain ⟨same, there, stopped⟩ := ok.tasks i _ found
            obtain rfl := Option.some.inj (here.symm.trans there)
            exact .inl stopped

theorem cap_of_valid {n : Int} (valid : 1 ≤ n) : ((newSemaphore n).cap : Int) = n := by
  rw [newSemaphore, if_neg (by omega)]
  exact Int.toNat_of_nonneg (by omega)

/-- For each alias, up to case, one client is installed at most once and every successful lookup
returns it; what was made is held by an installed client, under construction or stopped; the requests to
a broker in flight fit into its budget, and with fair scheduling on they all went through one
scheduler. -/
theorem one_budget_per_broker (cfg : SEMPConfig) (valid : 1 ≤ cfg.maxConcurrentPerBroker)
    (toLower : String → String) (source : String → Option String)
    {history : List (Pool × PoolAction)} {p : Pool}
    (run : Run (Pool.step cfg toLower source) newBrokerPool history p) :
    (∀ canonical, history.countP (installs toLower canonical) ≤ 1) ∧
    (∀ (i : Nat) query client, p.tasks[i]? = some (.lookup query (.found client)) →
      p.clients.lookup (toLower query.brokerAlias) = some client) ∧
    (∀ (i : Nat) query g err, p.tasks[i]? = some (.lookup query (.failed (some g) err)) →
      ∃ adm, p.gates[g]? = some adm ∧ Stopped adm) ∧
    (∀ (g : Nat) (adm : Admission), p.gates[g]? = some adm → Stopped adm ∨
      (∃ canonical client, p.clients.lookup canonical = some client ∧ client.shared = shared cfg g) ∨
      ∃ (i : Nat) (query : Query) (displayName : String) (build : Build),
        p.tasks[i]? = some (.lookup query (.building displayName build)) ∧ buildMade build = some g) ∧
    (∀ canonical, p.requests canonical ≤ cfg.maxConcurrentPerBroker) ∧
    (cfg.fair = true → ∀ canonical, ∃ g, ∀ (k : Nat) (adm : Admission), p.gates[k]? = some adm →
      (∃ caller ∈ adm.callers, caller.canonical = canonical) →
        k = g ∧ ∃ st, adm.senders.gate = .scheduled st) := by
  have preserved : ∀ p a p', PoolOk cfg toLower p → Pool.step cfg toLower source p a = some p' →
      PoolOk cfg toLower p' := fun _ _ _ ok taken => (ok.step taken).ok
  have ok : PoolOk cfg toLower p := (run.invariant poolOk_start preserved).1
  refine ⟨?_, ?_, ?_, ?_, ?_, ?_⟩
  · intro canonical
    have paid : history.countP (installs toLower canonical) + vacant canonical p ≤
        vacant canonical newBrokerPool + history.countP fun _ => false := by
      apply run.potential poolOk_start preserved
      intro p a p' ok taken
      exact (ok.step taken).once canonical
    have nothing : (history.countP fun _ => false) = 0 := List.countP_eq_zero.mpr nofun
    have room : vacant canonical newBrokerPool = 1 := rfl
    omega
  · intro i query client here
    exact ok.tasks i _ here
  · intro i query g err here
    exact ok.tasks i _ here
  · intro g adm here
    exact ok.stopped_or_held here
  · intro canonical
    have bound := ok.requests_le canonical
    have cap := cap_of_valid valid
    omega
  · intro fair canonical
    by_cases any : ∃ (g : Nat) (adm : Admission), p.gates[g]? = some adm ∧
        ∃ caller ∈ adm.callers, caller.canonical = canonical
    · obtain ⟨g, adm, here, calls⟩ := any
      refine ⟨g, fun k other there calls' => ⟨ok.alone there here calls' calls, ?_⟩⟩
      have scheduled := (ok.gates k other there).fair
      rw [fair] at scheduled
      cases gate : other.senders.gate with
      | unscheduled sem =>
          rw [gate] at scheduled
          cases scheduled
      | scheduled st => exact ⟨st, rfl⟩
    · exact ⟨0, fun k other there calls => absurd ⟨k, other, there, calls⟩ any⟩

private def oneSlot : SEMPConfig := ⟨1, true, some false, 0, 0⟩

private def lower (brokerAlias : String) : String :=
  if brokerAlias = "Prod" then "prod" else brokerAlias

-- Both lookups miss the client; the second one finds the client that the first has installed.
private def racing : List PoolAction :=
  [.get ⟨"Prod", .sempV1⟩, .get ⟨"prod", .sempV2⟩, .advance 0 .read, .advance 1 .read,
    .advance 0 .lock, .advance 0 .check, .advance 0 .succeeds, .advance 0 .succeeds,
    .advance 0 .succeeds, .advance 1 .lock, .advance 1 .check, .request 0 ⟨"a", "x"⟩,
    .request 1 ⟨"b", "y"⟩, .activity 0 (.event 0 .permitted), .activity 0 (.event 1 .permitted),
    .activity 0 (.event 0 .acquired)]

theorem one_budget_per_broker_raced : ∃ history p,
    Run (Pool.step oneSlot lower fun _ => some "Prod") newBrokerPool history p ∧
    p.requests "prod" = 1 ∧ (p.requests "prod" : Int) ≤ oneSlot.maxConcurrentPerBroker ∧
    history.countP (installs lower "prod") ≤ 1 := by
  have raced : (exec (Pool.step oneSlot lower fun _ => some "Prod") newBrokerPool racing).map
      (Pool.requests · "prod") = some 1 := by
    decide +kernel
  obtain ⟨p, done, inFlight⟩ := Option.map_eq_some_iff.mp raced
  have run := run_of_exec done
  obtain ⟨once, -, -, -, bounded, -⟩ :=
    one_budget_per_broker oneSlot (by decide) lower (fun _ => some "Prod") run
  exact ⟨_, p, run, inFlight, bounded "prod", once "prod"⟩

end BrokerMcp.Proof.Semp
