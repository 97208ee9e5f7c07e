import BrokerMcp.Tools.Native
import Mathlib.Tactic

namespace BrokerMcp.Proof.Tools
open Resilience BrokerMcp.Composite BrokerMcp.Tools.Native Transition
open ErrGroup (Group Clean)

variable {ρ : Type} {tool : Tool ρ} {s t : Call ρ} {a : Action ρ}

inductive Fails (s : Call ρ) (err : Chain) : Action ρ → Prop where
  | own {i : Nat} : Fails s err (.finish i (.error err))
  | ended {i : Nat} (ended : s.ended = true) : Fails s err (.interrupt i err)

inductive Moves (tool : Tool ρ) (s : Call ρ) : Action ρ → Call ρ → Prop where
  | cancels : Moves tool s .cancel { s with ended := true }
  | finishes {i : Nat} {result : Except Chain ρ} {group next : Group Chain ρ}
      (phase : s.phase = .gathering group) (done : group.finish i result = some next) :
      Moves tool s (.finish i result) ⟨s.ended, .gathering next⟩
  | interrupts {i : Nat} {err : Chain} {group next : Group Chain ρ}
      (phase : s.phase = .gathering group) (done : group.finish i (.error err) = some next)
      (past : s.ended = true ∨ group.failure.isSome = true) :
      Moves tool s (.interrupt i err) ⟨s.ended, .gathering next⟩
  | waits {group : Group Chain ρ} {waited : Except Chain (List ρ)}
      (phase : s.phase = .gathering group) (done : group.wait = some waited) :
      Moves tool s .wait ⟨s.ended, tool.waited waited⟩
  | asks {replies : List ρ} {result : Except Chain ρ} (phase : s.phase = .asking replies) :
      Moves tool s (.ask result)
        ⟨s.ended, .returned (tool.assemble replies (result.toOption.bind tool.curated))⟩
  | panics {replies : List ρ} (phase : s.phase = .asking replies) :
      Moves tool s .askPanics ⟨s.ended, .panicked⟩

theorem step_moves_native (taken : s.step tool a = some t) : Moves tool s a t := by
  cases a with
  | cancel =>
      obtain rfl := Option.some.inj taken
      exact .cancels
  | finish i result =>
      dsimp only [Call.step] at taken
      split at taken
      · next group phase =>
          obtain ⟨next, done, rfl⟩ := Option.map_eq_some_iff.mp taken
          exact .finishes phase done
      · cases taken
  | interrupt i err =>
      dsimp only [Call.step] at taken
      split at taken
      · next group phase =>
          split_ifs at taken with past
          obtain ⟨next, done, rfl⟩ := Option.map_eq_some_iff.mp taken
          exact .interrupts phase done (Bool.or_eq_true_iff.mp past)
      · cases taken
  | wait =>
      dsimp only [Call.step] at taken
      split at taken
      · next group phase =>
          obtain ⟨waited, done, rfl⟩ := Option.map_eq_some_iff.mp taken
          exact .waits phase done
      · cases taken
  | ask result =>
      dsimp only [Call.step] at taken
      split at taken
      · next replies phase =>
          obtain rfl := Option.some.inj taken
          exact .asks phase
      · cases taken
  | askPanics =>
      dsimp only [Call.step] at taken
      split at taken
      · next replies phase =>
          obtain rfl := Option.some.inj taken
          exact .panics phase
      · cases taken

theorem waited_ne_gathering (waited : Except Chain (List ρ)) (group : Group Chain ρ) :
    tool.waited waited ≠ .gathering group := by
  intro gathering
  cases waited with
  | error err => cases gathering
  | ok replies =>
      unfold Tool.waited at gathering
      dsimp only at gathering
      split_ifs at gathering

theorem waited_ne_panicked (waited : Except Chain (List ρ)) : tool.waited waited ≠ .panicked := by
  intro panicked
  cases waited with
  | error err => cases panicked
  | ok replies =>
      unfold Tool.waited at panicked
      dsimp only at panicked
      split_ifs at panicked

inductive Finishes (s : Call ρ) (group : Group Chain ρ) (i : Nat) :
    Except Chain ρ → Action ρ → Prop where
  | alone {result : Except Chain ρ} : Finishes s group i result (.finish i result)
  | interrupted {err : Chain} (past : s.ended = true ∨ group.failure.isSome = true) :
      Finishes s group i (.error err) (.interrupt i err)

theorem gathering_inv (taken : s.step tool a = some t) {next : Group Chain ρ}
    (phase' : t.phase = .gathering next) :
    s.phase = .gathering next ∨
      ∃ group i result, s.phase = .gathering group ∧ group.results[i]? = some none ∧
        next = ⟨group.results.set i (some result), ErrGroup.firstFailure group.failure result⟩ ∧
        Finishes s group i result a := by
  cases step_moves_native taken with
  | cancels => exact .inl phase'
  | waits _ _ => exact absurd phase' (waited_ne_gathering _ _)
  | asks _ | panics _ => cases phase'
  | finishes phase done =>
      obtain rfl := Phase.gathering.inj phase'
      obtain ⟨vacant, made⟩ := ErrGroup.finish_inv done
      exact .inr ⟨_, _, _, phase, vacant, made, .alone⟩
  | interrupts phase done past =>
      obtain rfl := Phase.gathering.inj phase'
      obtain ⟨vacant, made⟩ := ErrGroup.finish_inv done
      exact .inr ⟨_, _, _, phase, vacant, made, .interrupted past⟩

section Group

variable {history : List (Call ρ × Action ρ)} {group : Group Chain ρ}

def Gathers (tool : Tool ρ) (s : Call ρ) : Prop :=
  ∀ group, s.phase = .gathering group → Clean group ∧ group.results.length = tool.tasks

theorem run_gathers (run : Run (Call.step tool) (.start tool) history s) : Gathers tool s := by
  apply (run.invariant (motive := Gathers tool) _ _).1
  · intro group phase
    obtain rfl := Phase.gathering.inj phase
    exact ⟨ErrGroup.clean_start _, List.length_replicate⟩
  · intro s a t gathers taken next phase'
    rcases gathering_inv taken phase' with same | ⟨group, i, result, phase, -, rfl, -⟩
    · exact gathers next same
    · obtain ⟨clean, whole⟩ := gathers group phase
      exact ⟨clean.set i result, by rw [List.length_set, whole]⟩

def Holds (i : Nat) (reply : ρ) (s : Call ρ) : Prop :=
  ∃ group, s.phase = .gathering group ∧ group.results[i]? = some (some (.ok reply))

theorem replied (run : Run (Call.step tool) (.start tool) history s) {i : Nat} {reply : ρ}
    (holds : Holds i reply s) : ∃ p ∈ history, p.2 = .finish i (.ok reply) := by
  have traced : ∀ s a t, Call.step tool s a = some t → Holds i reply t →
      Holds i reply s ∨ a = .finish i (.ok reply) := by
    rintro s a t taken ⟨next, phase', here⟩
    rcases gathering_inv taken phase' with same | ⟨group, j, result, phase, vacant, rfl, finishes⟩
    · exact .inl ⟨next, same, here⟩
    · rw [Cells.getElem?_set_of_some vacant] at here
      split_ifs at here with same
      · subst same
        obtain rfl := Option.some.inj (Option.some.inj here)
        cases finishes with
        | alone => exact .inr rfl
      · exact .inl ⟨group, phase, here⟩
  have origin : Holds i reply (.start tool) ∨ ∃ p ∈ history, p.2 = .finish i (.ok reply) :=
    run.origin (motive := Holds i reply) holds traced
  rcases origin with ⟨group, phase, here⟩ | made
  · obtain rfl := Phase.gathering.inj phase
    have none := List.eq_of_mem_replicate (List.mem_of_getElem? here)
    cases none
  · exact made

/-- A call that fails before any other, and not because the group has ended. -/
def FirstFailure (err : Chain) (p : Call ρ × Action ρ) : Prop :=
  p.1.failure = none ∧ Fails p.1 err p.2

theorem failure_gathering (phase : s.phase = .gathering group) : s.failure = group.failure := by
  rw [Call.failure, phase]

theorem gathering_of_failure {err : Chain} (failed : s.failure = some err) :
    ∃ group, s.phase = .gathering group ∧ group.failure = some err := by
  unfold Call.failure at failed
  split at failed
  · next group phase => exact ⟨group, phase, failed⟩
  · cases failed

theorem failed_first (run : Run (Call.step tool) (.start tool) history s) {err : Chain}
    (failed : s.failure = some err) : ∃ p ∈ history, FirstFailure err p := by
  have traced : ∀ s a t, Call.step tool s a = some t → t.failure = some err →
      s.failure = some err ∨ FirstFailure err (s, a) := by
    intro s a t taken failed
    obtain ⟨next, phase', failed⟩ := gathering_of_failure failed
    rcases gathering_inv taken phase' with same | ⟨group, i, result, phase, -, rfl, finishes⟩
    · exact .inl ((failure_gathering same).trans failed)
    · rw [FirstFailure, failure_gathering phase]
      cases result with
      | ok reply => exact .inl failed
      | error err' =>
          cases earlier : group.failure with
          | some first =>
              rw [earlier] at failed
              exact .inl failed
          | none =>
              rw [earlier] at failed
              obtain rfl : err' = err := Option.some.inj failed
              refine .inr ⟨rfl, ?_⟩
              cases finishes with
              | alone => exact .own
              | interrupted past =>
                  rw [earlier] at past
                  exact .ended (past.resolve_right Bool.false_ne_true)
  exact (run.origin failed traced).resolve_left nofun

end Group

section Returned

variable {history : List (Call ρ × Action ρ)}

def Whole (tool : Tool ρ) (history : List (Call ρ × Action ρ)) (replies : List ρ) : Prop :=
  replies.length = tool.tasks ∧
    ∀ i reply, replies[i]? = some reply → ∃ p ∈ history, p.2 = .finish i (.ok reply)

theorem Whole.mono {history' : List (Call ρ × Action ρ)} {replies : List ρ}
    (whole : Whole tool history replies) (sub : history ⊆ history') : Whole tool history' replies := by
  refine ⟨whole.1, fun i reply here => ?_⟩
  obtain ⟨p, member, finished⟩ := whole.2 i reply here
  exact ⟨p, sub member, finished⟩

theorem waited_inv (run : Run (Call.step tool) (.start tool) history s) {group : Group Chain ρ}
    (phase : s.phase = .gathering group) {waited : Except Chain (List ρ)}
    (done : group.wait = some waited) :
    (∃ err, waited = .error err ∧ ∃ p ∈ history, FirstFailure err p) ∨
      ∃ replies, waited = .ok replies ∧ Whole tool history replies := by
  obtain ⟨clean, tasks⟩ := run_gathers run group phase
  rcases ErrGroup.wait_inv clean done with ⟨err, failed, rfl⟩ | ⟨replies, rfl, results⟩
  · exact .inl ⟨err, rfl, failed_first run ((failure_gathering phase).trans failed)⟩
  · refine .inr ⟨replies, rfl, ?_, ?_⟩
    · rw [← tasks, results, List.length_map]
    · intro i reply here
      apply replied run
      refine ⟨group, phase, ?_⟩
      rw [results, List.getElem?_map, here, Option.map_some]

def Waits (tool : Tool ρ) (phase : Phase ρ) (p : Call ρ × Action ρ) : Prop :=
  ∃ group waited, p.1.phase = .gathering group ∧ group.wait = some waited ∧
    tool.waited waited = phase

theorem Waits.inv (run : Run (Call.step tool) (.start tool) history s) {phase : Phase ρ}
    (made : ∃ p ∈ history, Waits tool phase p) :
    (∃ err, phase = .returned (.error err) ∧ ∃ p ∈ history, FirstFailure err p) ∨
      ∃ replies, phase = tool.waited (.ok replies) ∧ Whole tool history replies := by
  obtain ⟨p, member, group, waited, gathering, done, rfl⟩ := made
  obtain ⟨before, after, next, rfl, first, -, -⟩ := run.cut member
  have sub : before ⊆ before ++ p :: after := List.subset_append_left _ _
  rcases waited_inv first gathering done with ⟨err, rfl, q, failed, here⟩ | ⟨replies, rfl, whole⟩
  · exact .inl ⟨err, rfl, q, sub failed, here⟩
  · exact .inr ⟨replies, rfl, whole.mono sub⟩

theorem asking_inv (run : Run (Call.step tool) (.start tool) history s) {replies : List ρ}
    (asking : s.phase = .asking replies) :
    tool.conditional replies = true ∧ Whole tool history replies := by
  have traced : ∀ s a t, Call.step tool s a = some t → t.phase = .asking replies →
      s.phase = .asking replies ∨ Waits tool (.asking replies) (s, a) := by
    intro s a t taken asking
    cases step_moves_native taken with
    | cancels => exact .inl asking
    | finishes _ _ | interrupts _ _ _ | asks _ | panics _ => cases asking
    | waits phase done => exact .inr ⟨_, _, phase, done, asking⟩
  rcases Waits.inv run ((run.origin asking traced).resolve_left nofun) with
    ⟨err, bad, -⟩ | ⟨replies', on, whole⟩
  · cases bad
  · unfold Tool.waited at on
    dsimp only at on
    split_ifs at on with conditional
    obtain rfl := Phase.asking.inj on
    exact ⟨conditional, whole⟩

theorem returned_stays {result : Except Chain Object} (run : Run (Call.step tool) s history t)
    (done : s.phase = .returned result) : t.phase = .returned result := by
  apply (run.invariant (motive := fun s => s.phase = .returned result) done _).1
  intro s a t done taken
  cases step_moves_native taken with
  | cancels => exact done
  | finishes phase _ | interrupts phase _ _ | waits phase _ | asks phase | panics phase =>
      rw [phase] at done
      cases done

theorem asked_inv (run : Run (Call.step tool) (.start tool) history s) {answer : Except Chain ρ}
    {p : Call ρ × Action ρ} (member : p ∈ history) (asked : p.2 = .ask answer) :
    ∃ replies, tool.conditional replies = true ∧ Whole tool history replies ∧
      s.phase = .returned (tool.assemble replies (answer.toOption.bind tool.curated)) := by
  obtain ⟨before, after, next, rfl, first, taken, rest⟩ := run.cut member
  rw [asked] at taken
  cases step_moves_native taken with
  | @asks replies _ phase =>
      obtain ⟨conditional, whole⟩ := asking_inv first phase
      exact ⟨replies, conditional, whole.mono (List.subset_append_left _ _), returned_stays rest rfl⟩

theorem can_return_asking (tool : Tool ρ) {replies : List ρ} (asking : s.phase = .asking replies) :
    ∃ more t result, Run (Call.step tool) s more t ∧ t.phase = .returned result := by
  have taken : Call.step tool s (.ask (.error [])) =
      some ⟨s.ended, .returned (tool.assemble replies none)⟩ := by
    simp only [Call.step, asking]
    rfl
  exact ⟨_, _, _, .single taken, rfl⟩

theorem panicked_inv (run : Run (Call.step tool) (.start tool) history s) (done : s.phase = .panicked) :
    (∃ p ∈ history, p.2 = .askPanics) ∧
      ∃ replies, tool.conditional replies = true ∧ Whole tool history replies := by
  have traced : ∀ s a t, Call.step tool s a = some t → t.phase = .panicked →
      s.phase = .panicked ∨ (a = .askPanics ∧ ∃ replies, s.phase = .asking replies) := by
    intro s a t taken done
    cases step_moves_native taken with
    | cancels => exact .inl done
    | finishes _ _ | interrupts _ _ _ | asks _ => cases done
    | waits _ _ => exact absurd done (waited_ne_panicked _)
    | panics phase => exact .inr ⟨rfl, _, phase⟩
  have origin : (Call.start tool).phase = .panicked ∨
      ∃ p ∈ history, p.2 = .askPanics ∧ ∃ replies, p.1.phase = .asking replies :=
    run.origin (motive := fun s => s.phase = .panicked) done traced
  obtain ⟨p, member, panics, replies, asking⟩ := origin.resolve_left (by simp [Call.start])
  obtain ⟨before, after, next, rfl, first, -, -⟩ := run.cut member
  obtain ⟨conditional, whole⟩ := asking_inv first asking
  exact ⟨⟨p, member, panics⟩, replies, conditional, whole.mono (List.subset_append_left _ _)⟩

/-- Short of a panic a call can always return: whatever a pending task finishes with, one fewer is
pending. -/
theorem can_return (tool : Tool ρ) (s : Call ρ) (unpanicked : s.phase ≠ .panicked) :
    ∃ more t result, Run (Call.step tool) s more t ∧ t.phase = .returned result := by
  match s with
  | ⟨ended, .returned result⟩ => exact ⟨_, _, result, .nil, rfl⟩
  | ⟨ended, .panicked⟩ => exact absurd rfl unpanicked
  | ⟨ended, .asking replies⟩ => exact can_return_asking tool rfl
  | ⟨ended, .gathering group⟩ =>
      induction pending : group.pending using Nat.strong_induction_on generalizing group with
      | _ n ih =>
          by_cases finished : group.pending = 0
          · obtain ⟨waited, done⟩ := ErrGroup.wait_of_finished finished
            have taken : Call.step tool ⟨ended, .gathering group⟩ .wait =
                some ⟨ended, tool.waited waited⟩ := by
              simp only [Call.step, done, Option.map_some]
            cases phase : tool.waited waited with
            | gathering _ => exact absurd phase (waited_ne_gathering _ _)
            | panicked => exact absurd phase (waited_ne_panicked _)
            | returned result => exact ⟨_, _, result, .single taken, phase⟩
            | asking replies =>
                obtain ⟨more, t, result, rest, returned⟩ := can_return_asking tool
                  (s := ⟨ended, tool.waited waited⟩) phase
                exact ⟨_, t, result, .cons taken rest, returned⟩
          · obtain ⟨i, next, done, fewer⟩ := ErrGroup.finish_of_pending finished (.error [])
            have taken : Call.step tool ⟨ended, .gathering group⟩ (.finish i (.error [])) =
                some ⟨ended, .gathering next⟩ := by
              simp only [Call.step, done, Option.map_some]
            obtain ⟨more, t, result, rest, returned⟩ := ih _ (pending ▸ fewer) next (by simp) rfl
            exact ⟨_, t, result, .cons taken rest, returned⟩

theorem unasked_inv (run : Run (Call.step tool) (.start tool) history s)
    {result : Except Chain Object} (done : s.phase = .returned result)
    (unasked : ∀ p ∈ history, ∀ answer, p.2 ≠ .ask answer) :
    (∃ err, result = .error err ∧ ∃ p ∈ history, FirstFailure err p) ∨
      ∃ replies, tool.conditional replies = false ∧ Whole tool history replies ∧
        result = tool.assemble replies none := by
  have traced : ∀ s a t, Call.step tool s a = some t → t.phase = .returned result →
      s.phase = .returned result ∨
        (Waits tool (.returned result) (s, a) ∨ ∃ answer, a = .ask answer) := by
    intro s a t taken done
    cases step_moves_native taken with
    | cancels => exact .inl done
    | finishes _ _ | interrupts _ _ _ | panics _ => cases done
    | waits phase waited => exact .inr (.inl ⟨_, _, phase, waited, done⟩)
    | asks _ => exact .inr (.inr ⟨_, rfl⟩)
  have origin : (Call.start tool).phase = .returned result ∨
      ∃ p ∈ history, Waits tool (.returned result) p ∨ ∃ answer, p.2 = .ask answer :=
    run.origin (motive := fun s => s.phase = .returned result) done traced
  obtain ⟨p, member, made⟩ := origin.resolve_left nofun
  have waits := made.resolve_right fun ⟨answer, asked⟩ => unasked p member answer asked
  rcases Waits.inv run ⟨p, member, waits⟩ with ⟨err, bad, failed⟩ | ⟨replies, on, whole⟩
  · exact .inl ⟨err, Phase.returned.inj bad, failed⟩
  · unfold Tool.waited at on
    dsimp only at on
    split_ifs at on with conditional
    exact .inr ⟨replies, Bool.eq_false_of_not_eq_true conditional, whole, Phase.returned.inj on⟩

/-- Whatever the order in which the calls of a tool finish, it returns the failure that came first, or
else the object made of one reply from each. The further call is made exactly if `conditional` says so
of the replies, and its failure is never what is returned; only a panic in it is one of the tool. -/
theorem native_all_or_nothing (run : Run (Call.step tool) (.start tool) history s) :
    (s.phase ≠ .panicked →
      ∃ more t result, Run (Call.step tool) s more t ∧ t.phase = .returned result) ∧
    (s.phase = .panicked → (∃ p ∈ history, p.2 = .askPanics) ∧
      ∃ replies, tool.conditional replies = true ∧ Whole tool history replies) ∧
    ∀ result, s.phase = .returned result →
      ((∀ p ∈ history, ∀ answer, p.2 ≠ .ask answer) ∧
        ((∃ err, result = .error err ∧ ∃ p ∈ history, FirstFailure err p) ∨
          ∃ replies, tool.conditional replies = false ∧ Whole tool history replies ∧
            result = tool.assemble replies none)) ∨
      ∃ answer, (∃ p ∈ history, p.2 = .ask answer) ∧
        ∃ replies, tool.conditional replies = true ∧ Whole tool history replies ∧
          result = tool.assemble replies (answer.toOption.bind tool.curated) := by
  refine ⟨can_return tool s, panicked_inv run, fun result done => ?_⟩
  by_cases asked : ∃ p ∈ history, ∃ answer, p.2 = .ask answer
  · obtain ⟨p, member, answer, ask⟩ := asked
    obtain ⟨replies, conditional, whole, done'⟩ := asked_inv run member ask
    refine .inr ⟨answer, ⟨p, member, ask⟩, replies, conditional, whole, ?_⟩
    exact Phase.returned.inj (done.symm.trans done')
  · have unasked : ∀ p ∈ history, ∀ answer, p.2 ≠ .ask answer :=
      fun p member answer ask => asked ⟨p, member, answer, ask⟩
    exact .inl ⟨unasked, unasked_inv run done unasked⟩

def direct : Reader Object where
  description reply :=
    match reply.lookup "description" with
    | some (.str description) => some description
    | _ => none
  curated := some
  structToMap _ reply := .ok reply

def onAppliance : List (Action Object) :=
  [.finish 3 (.ok [("configStatus", .str "Enabled")]),
    .finish 0 (.ok [("description", .str "Solace Event Broker 3560")]),
    .finish 2 (.ok []), .finish 1 (.ok [])]

def onApplianceReplies : List Object :=
  [[("description", .str "Solace Event Broker 3560")], [], [], [("configStatus", .str "Enabled")]]

def onApplianceStatus : Object :=
  [("version", .obj [("description", .str "Solace Event Broker 3560")]), ("system", .obj []),
    ("memory", .obj []), ("spool", .obj [("configStatus", .str "Enabled")])]

def spoolDiscards : Object := [("discardSpoolOverQuota", .float 7)]

def clientDiscards : Object := [("ingress", .obj [("totalIngressDiscards", .float 2)])]

def noDepth : List (Action Object) :=
  [.finish 1 (.error [.text "connection reset"]), .interrupt 0 [.text "context canceled"], .wait]

theorem native_all_or_nothing_tools :
    (∃ history s, Run (Call.step (brokerStatus direct)) (.start (brokerStatus direct)) history s ∧
      s.phase = .returned (.ok onApplianceStatus) ∧
      ∃ replies, (brokerStatus direct).conditional replies = true ∧
        Whole (brokerStatus direct) history replies) ∧
    (∃ history s, Run (Call.step (discardStats direct)) (.start (discardStats direct)) history s ∧
      s.phase = .returned
        (.ok [("clientDiscards", .obj clientDiscards), ("spoolDiscards", .obj spoolDiscards)]) ∧
      ∃ replies, Whole (discardStats direct) history replies) ∧
    ∃ history s, Run (Call.step queueMetrics) (.start queueMetrics) history s ∧
      s.phase = .returned (.error [.text "connection reset"]) ∧
      ∃ p ∈ history, FirstFailure [.text "connection reset"] p := by
  refine ⟨?_, ?_, ?_⟩
  · obtain ⟨s, done, waited⟩ : ∃ s,
        exec (Call.step (brokerStatus direct)) (.start (brokerStatus direct)) onAppliance = some s ∧
        s.step (brokerStatus direct) .wait =
          some ⟨false, (brokerStatus direct).waited (.ok onApplianceReplies)⟩ := ⟨_, rfl, rfl⟩
    have appliance : (brokerStatus direct).conditional onApplianceReplies = true := by decide +kernel
    have asking : (brokerStatus direct).waited (.ok onApplianceReplies) = .asking onApplianceReplies :=
      if_pos appliance
    rw [asking] at waited
    have asked : Call.step (brokerStatus direct) ⟨false, .asking onApplianceReplies⟩
        (.ask (.error [.text "connection reset"])) =
          some ⟨false, .returned (.ok onApplianceStatus)⟩ := rfl
    have run := (run_of_exec done).append (.cons waited (.single asked))
    rcases (native_all_or_nothing run).2.2 _ rfl with
      ⟨unasked, -⟩ | ⟨-, -, replies, conditional, whole, -⟩
    · exact absurd rfl (unasked _ (List.mem_append_right _ (.tail _ (.head _))) _)
    · exact ⟨_, _, run, rfl, replies, conditional, whole⟩
  · have done : exec (Call.step (discardStats direct)) (.start (discardStats direct))
        [.finish 1 (.ok spoolDiscards), .finish 0 (.ok clientDiscards), .wait] = some ⟨false, .returned
          (.ok [("clientDiscards", .obj clientDiscards), ("spoolDiscards", .obj spoolDiscards)])⟩ := rfl
    have run := run_of_exec done
    rcases (native_all_or_nothing run).2.2 _ rfl with
      ⟨-, ⟨err, failed, -⟩ | ⟨replies, -, whole, -⟩⟩ | ⟨_, -, _, conditional, -⟩
    · cases failed
    · exact ⟨_, _, run, rfl, replies, whole⟩
    · cases conditional
  · have done : exec (Call.step queueMetrics) (.start queueMetrics) noDepth =
        some ⟨false, .returned (.error [.text "connection reset"])⟩ := rfl
    have run := run_of_exec done
    rcases (native_all_or_nothing run).2.2 _ rfl with
      ⟨-, ⟨err, failed, first⟩ | ⟨_, -, -, assembled⟩⟩ | ⟨_, -, _, conditional, -⟩
    · obtain rfl := Except.error.inj failed
      exact ⟨_, _, run, rfl, first⟩
    · cases assembled
    · cases conditional

end Returned

end BrokerMcp.Proof.Tools
