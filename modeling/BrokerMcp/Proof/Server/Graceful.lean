import BrokerMcp.Library.Cells
import BrokerMcp.Server.Shutdown
import Mathlib.Tactic

namespace BrokerMcp.Proof.Server
open BrokerMcp.Server Transition

variable {cfg : Config} {s t : Process} {a : Action}

inductive Evaluates (s t : Process) : Prop where
  | same (same : t.evaluations = s.evaluations)
  | called (same : t.evaluations = s.evaluations ++ [.called])
  | steps {j : Nat} {evaluation next : Evaluation} {err : Option String}
      (here : s.evaluations[j]? = some evaluation)
      (taken : evaluation.step s.readiness err = some next)
      (same : t.evaluations = s.evaluations.set j next)

structure Stays (s t : Process) : Prop where
  phase : t.phase = s.phase
  forceSig : t.forceSig = s.forceSig
  closed : s.accepting = false → t.accepting = false
  flying : Request.inFlight ∈ t.requests → s.accepting = true ∨ Request.inFlight ∈ s.requests
  dropped : Request.dropped ∈ t.requests → Request.dropped ∈ s.requests
  hooks : t.hooks.length = s.hooks.length
  now : s.now ≤ t.now
  shuttingDown : t.readiness.shuttingDown = s.readiness.shuttingDown
  evaluations : Evaluates s t

def outside : Action → Bool
  | .tick | .notify _ | .accept | .answer _ | .serveFails | .registerListener _ | .hookEnds _ _
  | .readyz | .evaluate _ _ => true
  | _ => false

theorem act_stays (given : outside a = true) (taken : s.act cfg a = some t) :
    Stays s t ∧ (a = .tick ∧ t.now = s.now + 1 ∨ t.now = s.now) := by
  cases a with
  | tick =>
      obtain rfl := Option.some.inj taken
      exact ⟨⟨rfl, rfl, id, .inr, id, rfl, Nat.le_succ _, rfl, .same rfl⟩, .inl ⟨rfl, rfl⟩⟩
  | notify sig =>
      obtain rfl := Option.some.inj taken
      split_ifs
      · exact ⟨⟨rfl, rfl, id, .inr, id, rfl, le_rfl, rfl, .same rfl⟩, .inr rfl⟩
      · exact ⟨⟨rfl, rfl, id, .inr, id, rfl, le_rfl, rfl, .same rfl⟩, .inr rfl⟩
  | accept =>
      dsimp only [Process.act] at taken
      split_ifs at taken with open_
      obtain rfl := Option.some.inj taken
      refine ⟨⟨rfl, rfl, id, fun _ => .inl open_, ?_, rfl, le_rfl, rfl, .same rfl⟩, .inr rfl⟩
      intro lost
      simpa using lost
  | answer i =>
      dsimp only [Process.act] at taken
      split_ifs at taken
      obtain rfl := Option.some.inj taken
      refine ⟨⟨rfl, rfl, id, ?_, ?_, rfl, le_rfl, rfl, .same rfl⟩, .inr rfl⟩
      · intro flying
        rcases List.mem_or_eq_of_mem_set flying with old | new
        · exact .inr old
        · cases new
      · intro lost
        rcases List.mem_or_eq_of_mem_set lost with old | new
        · exact old
        · cases new
  | serveFails =>
      dsimp only [Process.act] at taken
      split_ifs at taken
      obtain rfl := Option.some.inj taken
      exact ⟨⟨rfl, rfl, fun _ => rfl, .inr, id, rfl, le_rfl, rfl, .same rfl⟩, .inr rfl⟩
  | registerListener name =>
      dsimp only [Process.act] at taken
      split_ifs at taken
      obtain rfl := Option.some.inj taken
      exact ⟨⟨rfl, rfl, id, .inr, id, rfl, le_rfl, rfl, .same rfl⟩, .inr rfl⟩
  | hookEnds i how =>
      dsimp only [Process.act] at taken
      split_ifs at taken
      obtain rfl := Option.some.inj taken
      exact ⟨⟨rfl, rfl, id, .inr, id, List.length_set, le_rfl, rfl, .same rfl⟩, .inr rfl⟩
  | readyz =>
      dsimp only [Process.act] at taken
      split_ifs at taken
      obtain rfl := Option.some.inj taken
      exact ⟨⟨rfl, rfl, id, .inr, id, rfl, le_rfl, rfl, .called rfl⟩, .inr rfl⟩
  | evaluate j err =>
      obtain ⟨evaluation, here, taken⟩ := Option.bind_eq_some_iff.mp taken
      obtain ⟨next, stepped, taken⟩ := Option.bind_eq_some_iff.mp taken
      obtain rfl := Option.some.inj taken
      exact ⟨⟨rfl, rfl, id, .inr, id, rfl, le_rfl, rfl, .steps here stepped rfl⟩, .inr rfl⟩
  | _ => cases given

inductive Moves (cfg : Config) (s : Process) : Action → Process → Prop where
  | stays {a : Action} {t : Process} (given : outside a = true) (stays : Stays s t)
      (clock : a = .tick ∧ t.now = s.now + 1 ∨ t.now = s.now) : Moves cfg s a t
  | initializes (phase : s.phase = .starting) : Moves cfg s .setInitialized
      { s with readiness := { s.readiness with initialized := true }, phase := .serving }
  | receives {sig : Signal} {rest : List Signal} (phase : s.phase = .serving)
      (found : s.done = sig :: rest) : Moves cfg s .receive
        ({ s with done := rest }.drainAndShutdown (drainDelayForSignal sig cfg.shutdownDrainDelayS))
  | fails (phase : s.phase = .serving) :
      Moves cfg s .receiveErr { s with serverErr := false }.gracefulShutdown
  | drains {deadline : Nat} (phase : s.phase = .draining deadline) (due : deadline ≤ s.now) :
      Moves cfg s .drained s.gracefulShutdown
  | closes {rest : List Signal} (forceSig : s.forceSig = true)
      (phase : (∃ deadline, s.phase = .draining deadline) ∨
        ∃ deadline call, s.phase = .waiting deadline call) :
      Moves cfg s .force { s.close with phase := .stopped, done := rest }
  | abandons {deadline : Nat} {rest : List Signal} (forceSig : s.forceSig = true)
      (phase : s.phase = .flushing deadline) :
      Moves cfg s .force { s with phase := .stopped, done := rest }
  | calls {deadline : Nat} (phase : s.phase = .waiting deadline .spawned) :
      Moves cfg s .callShutdown { s with phase := .waiting deadline .polling, accepting := false }
  | idles {deadline : Nat} (phase : s.phase = .waiting deadline .polling)
      (idle : Request.inFlight ∉ s.requests) :
      Moves cfg s .shutdownDone { s with phase := .waiting deadline (.returned false) }
  | expires {deadline : Nat} (phase : s.phase = .waiting deadline .polling)
      (due : deadline ≤ s.now) :
      Moves cfg s .shutdownTimeout { s with phase := .waiting deadline (.returned true) }
  | settles {deadline : Nat} {timedOut : Bool}
      (phase : s.phase = .waiting deadline (.returned timedOut)) :
      Moves cfg s .settle ((if timedOut then s.close else s).runShutdownHooks cfg)
  | flushes {deadline : Nat} (phase : s.phase = .flushing deadline)
      (past : Hook.running ∉ s.hooks ∨ deadline ≤ s.now) :
      Moves cfg s .flushed { s with phase := .stopped }

theorem act_moves (own : outside a = false) (taken : s.act cfg a = some t) : Moves cfg s a t := by
  cases a with
  | setInitialized =>
      dsimp only [Process.act] at taken
      split_ifs at taken with phase
      obtain rfl := Option.some.inj taken
      exact .initializes phase
  | receive =>
      dsimp only [Process.act] at taken
      split at taken
      · next sig rest phase found =>
          obtain rfl := Option.some.inj taken
          exact .receives phase found
      · cases taken
  | receiveErr =>
      dsimp only [Process.act] at taken
      split_ifs at taken with both
      obtain rfl := Option.some.inj taken
      exact .fails both.1
  | drained =>
      dsimp only [Process.act] at taken
      split at taken
      · next deadline phase =>
          split_ifs at taken with due
          obtain rfl := Option.some.inj taken
          exact .drains phase due
      · cases taken
  | force =>
      dsimp only [Process.act] at taken
      split at taken
      · cases taken
      · split_ifs at taken with forceSig
        unfold Process.force at taken
        split at taken
        · next deadline phase =>
            obtain rfl := Option.some.inj taken
            exact .closes forceSig (.inl ⟨_, phase⟩)
        · next deadline call phase =>
            obtain rfl := Option.some.inj taken
            exact .closes forceSig (.inr ⟨_, _, phase⟩)
        · next deadline phase =>
            obtain rfl := Option.some.inj taken
            exact .abandons forceSig phase
        · cases taken
  | callShutdown =>
      dsimp only [Process.act] at taken
      split at taken
      · next deadline phase =>
          obtain rfl := Option.some.inj taken
          exact .calls phase
      · cases taken
  | shutdownDone =>
      dsimp only [Process.act] at taken
      split at taken
      · next deadline phase =>
          split_ifs at taken with flying
          obtain rfl := Option.some.inj taken
          exact .idles phase flying
      · cases taken
  | shutdownTimeout =>
      dsimp only [Process.act] at taken
      split at taken
      · next deadline phase =>
          split_ifs at taken with due
          obtain rfl := Option.some.inj taken
          exact .expires phase due
      · cases taken
  | settle =>
      dsimp only [Process.act] at taken
      split at taken
      · next deadline timedOut phase =>
          obtain rfl := Option.some.inj taken
          exact .settles phase
      · cases taken
  | flushed =>
      dsimp only [Process.act] at taken
      split at taken
      · next deadline phase =>
          split_ifs at taken with past
          obtain rfl := Option.some.inj taken
          exact .flushes phase past
      · cases taken
  | _ => cases own

theorem step_moves (taken : s.step cfg a = some t) : s.phase ≠ .stopped ∧ Moves cfg s a t := by
  unfold Process.step at taken
  split_ifs at taken with stopped
  refine ⟨stopped, ?_⟩
  cases given : outside a with
  | false => exact act_moves given taken
  | true =>
      obtain ⟨stays, clock⟩ := act_stays given taken
      exact .stays given stays clock

section Begun

variable (s) (delay : Nat)

@[simp]
theorem drainAndShutdown_shuttingDown :
    (s.drainAndShutdown delay).readiness.shuttingDown = true := by
  unfold Process.drainAndShutdown
  dsimp only
  split_ifs <;> rfl

@[simp]
theorem drainAndShutdown_evaluations : (s.drainAndShutdown delay).evaluations = s.evaluations := by
  unfold Process.drainAndShutdown
  dsimp only
  split_ifs <;> rfl

@[simp]
theorem drainAndShutdown_hooks : (s.drainAndShutdown delay).hooks = s.hooks := by
  unfold Process.drainAndShutdown
  dsimp only
  split_ifs <;> rfl

theorem drainAndShutdown_unstopped : (s.drainAndShutdown delay).phase ≠ .stopped := by
  unfold Process.drainAndShutdown
  dsimp only
  split_ifs <;> nofun

end Begun

structure Quiet (s : Process) : Prop where
  closed : s.accepting = false
  idle : Request.inFlight ∉ s.requests

structure Whole (s : Process) : Prop where
  kept : Request.dropped ∉ s.requests
  unhooked : s.hooks = []

structure Called (s : Process) (deadline : Nat) (call : ShutdownCall) : Prop where
  closed : call ≠ .spawned → s.accepting = false
  idle : call = .returned false → Request.inFlight ∉ s.requests
  due : call = .returned true → deadline ≤ s.now

def Shaped (cfg : Config) (s : Process) : Phase → Prop
  | .starting | .serving => Whole s ∧ s.forceSig = false
  | .draining _ => Whole s
  | .waiting deadline call => Whole s ∧ Called s deadline call
  | .flushing _ => Quiet s ∧ s.hooks.length = cfg.hooks.length
  | .stopped => Quiet s

theorem Stays.whole (stays : Stays s t) (whole : Whole s) : Whole t where
  kept lost := whole.kept (stays.dropped lost)
  unhooked := by
    apply List.eq_nil_of_length_eq_zero
    rw [stays.hooks, whole.unhooked]
    rfl

theorem Stays.quiet (stays : Stays s t) (quiet : Quiet s) : Quiet t where
  closed := stays.closed quiet.closed
  idle flying := by
    rcases stays.flying flying with open_ | flying
    · cases quiet.closed.symm.trans open_
    · exact quiet.idle flying

theorem Stays.shaped (stays : Stays s t) (shaped : Shaped cfg s s.phase) :
    Shaped cfg t t.phase := by
  rw [stays.phase]
  cases phase : s.phase with
  | starting | serving =>
      rw [phase] at shaped
      exact ⟨stays.whole shaped.1, stays.forceSig.trans shaped.2⟩
  | draining deadline =>
      rw [phase] at shaped
      exact stays.whole shaped
  | waiting deadline call =>
      rw [phase] at shaped
      obtain ⟨whole, called⟩ := shaped
      refine ⟨stays.whole whole, fun begun => stays.closed (called.closed begun), ?_, ?_⟩
      · rintro rfl
        exact (stays.quiet ⟨called.closed (by decide), called.idle rfl⟩).idle
      · intro timedOut
        exact (called.due timedOut).trans stays.now
  | flushing deadline =>
      rw [phase] at shaped
      exact ⟨stays.quiet shaped.1, stays.hooks.trans shaped.2⟩
  | stopped =>
      rw [phase] at shaped
      exact stays.quiet shaped

theorem close_quiet (s : Process) : Quiet s.close where
  closed := rfl
  idle flying := by
    obtain ⟨request, -, same⟩ := List.mem_map.mp flying
    cases request <;> cases same

theorem gracefulShutdown_shaped (whole : Whole s) :
    Shaped cfg s.gracefulShutdown s.gracefulShutdown.phase :=
  ⟨⟨whole.kept, whole.unhooked⟩, fun begun => absurd rfl begun, nofun, nofun⟩

theorem Moves.shaped (moves : Moves cfg s a t) (shaped : Shaped cfg s s.phase) :
    Shaped cfg t t.phase := by
  cases moves with
  | stays _ stays _ => exact stays.shaped shaped
  | initializes phase =>
      rw [phase] at shaped
      exact ⟨⟨shaped.1.kept, shaped.1.unhooked⟩, shaped.2⟩
  | receives phase _ =>
      rw [phase] at shaped
      unfold Process.drainAndShutdown
      dsimp only
      split_ifs
      · exact ⟨shaped.1.kept, shaped.1.unhooked⟩
      · exact gracefulShutdown_shaped ⟨shaped.1.kept, shaped.1.unhooked⟩
  | fails phase =>
      rw [phase] at shaped
      exact gracefulShutdown_shaped ⟨shaped.1.kept, shaped.1.unhooked⟩
  | drains phase _ =>
      rw [phase] at shaped
      exact gracefulShutdown_shaped shaped
  | closes _ _ => exact ⟨(close_quiet s).closed, (close_quiet s).idle⟩
  | abandons _ phase =>
      rw [phase] at shaped
      exact ⟨shaped.1.closed, shaped.1.idle⟩
  | calls phase =>
      rw [phase] at shaped
      exact ⟨⟨shaped.1.kept, shaped.1.unhooked⟩, fun _ => rfl, nofun, nofun⟩
  | idles phase idle =>
      rw [phase] at shaped
      exact ⟨⟨shaped.1.kept, shaped.1.unhooked⟩, fun _ => shaped.2.closed (by decide),
        fun _ => idle, nofun⟩
  | expires phase due =>
      rw [phase] at shaped
      exact ⟨⟨shaped.1.kept, shaped.1.unhooked⟩, fun _ => shaped.2.closed (by decide), nofun,
        fun _ => due⟩
  | @settles deadline timedOut phase =>
      rw [phase] at shaped
      cases timedOut with
      | false =>
          exact ⟨⟨shaped.2.closed (by decide), shaped.2.idle rfl⟩, List.length_map _⟩
      | true => exact ⟨⟨(close_quiet s).closed, (close_quiet s).idle⟩, List.length_map _⟩
  | flushes phase _ =>
      rw [phase] at shaped
      exact ⟨shaped.1.closed, shaped.1.idle⟩

theorem run_shaped {history : List (Process × Action)}
    (run : Run (Process.step cfg) {} history s) : Shaped cfg s s.phase := by
  apply (run.invariant (motive := fun s => Shaped cfg s s.phase) _ _).1
  · exact ⟨⟨List.not_mem_nil, rfl⟩, rfl⟩
  · intro s a t shaped taken
    exact (step_moves taken).2.shaped shaped

/-- The shutdown is under way: `Shutdown` is called at `due` or later, and what it does not wait for
is dropped when its time is over. -/
def Spared (due : Nat) (s : Process) : Phase → Prop
  | .starting | .serving => False
  | .draining deadline => due ≤ deadline
  | .waiting deadline _ => due + defaultShutdownTimeoutSeconds ≤ deadline
  | .flushing _ | .stopped =>
      Request.dropped ∈ s.requests → due + defaultShutdownTimeoutSeconds ≤ s.now

theorem Stays.spared {due : Nat} (stays : Stays s t) (spared : Spared due s s.phase) :
    Spared due t t.phase := by
  rw [stays.phase]
  cases phase : s.phase with
  | starting | serving | draining deadline | waiting deadline call =>
      rw [phase] at spared
      exact spared
  | flushing deadline | stopped =>
      rw [phase] at spared
      intro lost
      exact (spared (stays.dropped lost)).trans stays.now

theorem Moves.spared {due : Nat} (moves : Moves cfg s a t)
    (patient : a ≠ .force ∨ s.forceSig = false) (shaped : Shaped cfg s s.phase)
    (spared : Spared due s s.phase) : Spared due t t.phase := by
  cases moves with
  | stays _ stays _ => exact stays.spared spared
  | initializes phase | receives phase _ | fails phase =>
      rw [phase] at spared
      cases spared
  | drains phase past =>
      rw [phase] at spared
      exact Nat.add_le_add_right (spared.trans past) _
  | closes forceSig _ | abandons forceSig _ =>
      rcases patient with other | nil
      · exact absurd rfl other
      · cases nil.symm.trans forceSig
  | calls phase | idles phase _ | expires phase _ =>
      rw [phase] at spared
      exact spared
  | @settles deadline timedOut phase =>
      rw [phase] at spared shaped
      cases timedOut with
      | false => exact fun lost => absurd lost shaped.1.kept
      | true => exact fun _ => spared.trans (shaped.2.due rfl)
  | flushes phase _ =>
      rw [phase] at spared
      exact spared

theorem drainAndShutdown_spared (s : Process) (delay : Nat) :
    Spared (s.now + delay) (s.drainAndShutdown delay) (s.drainAndShutdown delay).phase := by
  unfold Process.drainAndShutdown
  dsimp only
  split_ifs with some
  · exact le_rfl
  · obtain rfl : delay = 0 := by omega
    exact le_rfl

theorem Moves.forceSig {due : Nat} (moves : Moves cfg s a t) (spared : Spared due s s.phase) :
    t.forceSig = s.forceSig := by
  cases moves with
  | stays _ stays _ => exact stays.forceSig
  | receives phase _ =>
      rw [phase] at spared
      cases spared
  | @settles _ timedOut _ => cases timedOut <;> rfl
  | _ => rfl

theorem Spared.late {due : Nat} (spared : Spared due s s.phase) (shaped : Shaped cfg s s.phase)
    (lost : Request.dropped ∈ s.requests) : due + defaultShutdownTimeoutSeconds ≤ s.now := by
  cases phase : s.phase with
  | starting | serving =>
      rw [phase] at spared
      cases spared
  | draining deadline =>
      rw [phase] at shaped
      exact absurd lost shaped.kept
  | waiting deadline call =>
      rw [phase] at shaped
      exact absurd lost shaped.1.kept
  | flushing deadline | stopped =>
      rw [phase] at spared
      exact spared lost

theorem spared_after {due : Nat} {history : List (Process × Action)}
    (run : Run (Process.step cfg) t history s) (shaped : Shaped cfg t t.phase)
    (spared : Spared due t t.phase)
    (patient : (∀ p ∈ history, p.2 ≠ .force) ∨ t.forceSig = false)
    (lost : Request.dropped ∈ s.requests) : due + defaultShutdownTimeoutSeconds ≤ s.now := by
  rcases patient with patient | nil
  · have both : Shaped cfg s s.phase ∧ Spared due s s.phase := by
      apply run.invariant_of (motive := fun s => Shaped cfg s s.phase ∧ Spared due s s.phase) patient
        ⟨shaped, spared⟩
      rintro s a t ⟨shaped, spared⟩ other taken
      have moves := (step_moves taken).2
      exact ⟨moves.shaped shaped, moves.spared (.inl other) shaped spared⟩
    exact both.2.late both.1 lost
  · have all : Shaped cfg s s.phase ∧ Spared due s s.phase ∧ s.forceSig = false := by
      apply (run.invariant (motive := fun s => Shaped cfg s s.phase ∧ Spared due s s.phase ∧
        s.forceSig = false) ⟨shaped, spared, nil⟩ _).1
      rintro s a t ⟨shaped, spared, nil⟩ taken
      have moves := (step_moves taken).2
      exact ⟨moves.shaped shaped, moves.spared (.inr nil) shaped spared,
        (moves.forceSig spared).trans nil⟩
    exact all.2.1.late all.1 lost

structure Flipped (n : Nat) (s : Process) : Prop where
  flag : s.readiness.shuttingDown = true
  late : ∀ j evaluation, n ≤ j → s.evaluations[j]? = some evaluation →
    evaluation = .called ∨ evaluation = .returned .shuttingDown

theorem Moves.evaluates (moves : Moves cfg s a t) : Evaluates s t := by
  cases moves with
  | stays _ stays _ => exact stays.evaluations
  | receives _ _ => exact .same (drainAndShutdown_evaluations _ _)
  | @settles _ timedOut _ =>
      apply Evaluates.same
      cases timedOut <;> rfl
  | _ => exact .same rfl

theorem Moves.shuttingDown (moves : Moves cfg s a t) (flag : s.readiness.shuttingDown = true) :
    t.readiness.shuttingDown = true := by
  cases moves with
  | stays _ stays _ => exact stays.shuttingDown.trans flag
  | receives _ _ => exact drainAndShutdown_shuttingDown _ _
  | @settles _ timedOut _ => cases timedOut <;> exact flag
  | _ => exact flag

theorem Evaluates.flipped {n : Nat} (evaluates : Evaluates s t)
    (flag : t.readiness.shuttingDown = true) (flipped : Flipped n s) : Flipped n t := by
  refine ⟨flag, fun j evaluation late here => ?_⟩
  cases evaluates with
  | same same => exact flipped.late j evaluation late (same ▸ here)
  | called same =>
      rw [same, List.getElem?_append] at here
      split_ifs at here with inside
      · exact flipped.late j evaluation late here
      · exact .inl (List.mem_singleton.mp (List.mem_of_getElem? here))
  | @steps i before next err found taken same =>
      rw [same] at here
      by_cases own : i = j
      · subst own
        rw [List.getElem?_set_self (Cells.lt_of_some found)] at here
        obtain rfl := Option.some.inj here
        rcases flipped.late i before late found with rfl | rfl
        · simp only [Evaluation.step, flipped.flag, if_pos] at taken
          exact .inr (Option.some.inj taken).symm
        · cases taken
      · rw [List.getElem?_set_ne own] at here
        exact flipped.late j evaluation late here

theorem drainAndShutdown_flipped (s : Process) (delay : Nat) :
    Flipped s.evaluations.length (s.drainAndShutdown delay) := by
  refine ⟨drainAndShutdown_shuttingDown s delay, fun j evaluation late here => ?_⟩
  rw [drainAndShutdown_evaluations] at here
  exact absurd (Cells.lt_of_some here) (not_lt.mpr late)

theorem unhooked_before {history : List (Process × Action)}
    (run : Run (Process.step cfg) {} history s) (unsettled : ∀ p ∈ history, p.2 ≠ .settle) :
    s.hooks = [] := by
  apply run.invariant_of (motive := fun s => s.hooks = []) unsettled rfl
  intro s a t unhooked other taken
  cases (step_moves taken).2 with
  | stays _ stays _ =>
      apply List.eq_nil_of_length_eq_zero
      rw [stays.hooks, unhooked]
      rfl
  | receives _ _ => exact (drainAndShutdown_hooks _ _).trans unhooked
  | settles _ => exact absurd rfl other
  | _ => exact unhooked

theorem hooked_after {history : List (Process × Action)}
    (run : Run (Process.step cfg) {} history s) (patient : ∀ p ∈ history, p.2 ≠ .force)
    (stopped : s.phase = .stopped) : s.hooks.length = cfg.hooks.length := by
  have both : Shaped cfg s s.phase ∧ (s.phase = .stopped → s.hooks.length = cfg.hooks.length) := by
    apply run.invariant_of (motive := fun s => Shaped cfg s s.phase ∧
      (s.phase = .stopped → s.hooks.length = cfg.hooks.length)) patient
    · exact ⟨⟨⟨List.not_mem_nil, rfl⟩, rfl⟩, nofun⟩
    rintro s a t ⟨shaped, hooked⟩ other taken
    obtain ⟨unstopped, moves⟩ := step_moves taken
    refine ⟨moves.shaped shaped, fun stopped => ?_⟩
    cases moves with
    | stays _ stays _ => exact absurd (stays.phase.symm.trans stopped) unstopped
    | receives _ _ => exact absurd stopped (drainAndShutdown_unstopped _ _)
    | closes _ _ | abandons _ _ => exact absurd rfl other
    | flushes phase _ =>
        rw [phase] at shaped
        exact shaped.2
    | @settles _ timedOut _ => cases timedOut <;> cases stopped
    | _ => cases stopped
  exact both.2 stopped

theorem Shaped.quiet (shaped : Shaped cfg s s.phase) (late : s.phase = .stopped ∨ s.hooks ≠ []) :
    Quiet s := by
  cases phase : s.phase with
  | starting | serving =>
      rw [phase] at shaped late
      exact absurd shaped.1.unhooked (late.resolve_left nofun)
  | draining deadline =>
      rw [phase] at shaped late
      exact absurd shaped.unhooked (late.resolve_left nofun)
  | waiting deadline call =>
      rw [phase] at shaped late
      exact absurd shaped.1.unhooked (late.resolve_left nofun)
  | flushing deadline =>
      rw [phase] at shaped
      exact shaped.1
  | stopped =>
      rw [phase] at shaped
      exact shaped

section Received

variable {history : List (Process × Action)} {s₀ : Process}

theorem dropped_late {sig : Signal} (run : Run (Process.step cfg) {} history s)
    (member : (s₀, .receive) ∈ history) (first : s₀.done.head? = some sig)
    (patient : ∀ p ∈ history, p.2 ≠ .force) (lost : Request.dropped ∈ s.requests) :
    s₀.now + drainDelayForSignal sig cfg.shutdownDrainDelayS + defaultShutdownTimeoutSeconds ≤
      s.now := by
  obtain ⟨before, after, next, rfl, early, taken, later⟩ := run.cut member
  have moves := (step_moves taken).2
  refine spared_after later (moves.shaped (run_shaped early)) ?_
    (.inl fun p member => patient p (by simp [member])) lost
  cases moves with
  | stays given _ _ => cases given
  | receives phase found =>
      rw [found] at first
      obtain rfl := Option.some.inj first
      exact drainAndShutdown_spared _ _

theorem dropped_late_of_err (run : Run (Process.step cfg) {} history s)
    (member : (s₀, .receiveErr) ∈ history) (lost : Request.dropped ∈ s.requests) :
    s₀.now + defaultShutdownTimeoutSeconds ≤ s.now := by
  obtain ⟨before, after, next, rfl, early, taken, later⟩ := run.cut member
  have moves := (step_moves taken).2
  have shaped := run_shaped early
  have start : Spared s₀.now next next.phase ∧ next.forceSig = false := by
    cases moves with
    | stays given _ _ => cases given
    | fails phase =>
        rw [phase] at shaped
        exact ⟨le_rfl, shaped.2⟩
  exact spared_after later (moves.shaped shaped) start.1 (.inr start.2) lost

theorem flipped_since (run : Run (Process.step cfg) {} history s)
    (member : (s₀, .receive) ∈ history) : Flipped s₀.evaluations.length s := by
  obtain ⟨before, after, next, rfl, early, taken, later⟩ := run.cut member
  apply (later.invariant (motive := Flipped s₀.evaluations.length) _ _).1
  · cases (step_moves taken).2 with
    | stays given _ _ => cases given
    | @receives sig rest _ _ => exact drainAndShutdown_flipped { s₀ with done := rest } _
  · intro s a t flipped taken
    have moves := (step_moves taken).2
    exact moves.evaluates.flipped (moves.shuttingDown flipped.flag) flipped

end Received

/-- However signals, timers, requests and hooks interleave: hooks run, and the process ends, only when
no request is in flight; without a second signal a request is dropped only when the drain delay and
the whole timeout of `Shutdown` have passed since the signal, and every hook has been started; and no
`/readyz` that is called after `SetShuttingDown` finds the server ready. -/
theorem shutdown_graceful (cfg : Config) {history : List (Process × Action)} {s : Process}
    (run : Run (Process.step cfg) {} history s) :
    (s.phase = .stopped ∨ s.hooks ≠ [] →
      s.accepting = false ∧ Request.inFlight ∉ s.requests) ∧
    (∀ s₀ sig, (s₀, .receive) ∈ history → s₀.done.head? = some sig →
      (∀ p ∈ history, p.2 ≠ .force) → Request.dropped ∈ s.requests →
      s₀.now + drainDelayForSignal sig cfg.shutdownDrainDelayS + defaultShutdownTimeoutSeconds ≤
        s.now) ∧
    (∀ s₀, (s₀, .receiveErr) ∈ history → Request.dropped ∈ s.requests →
      s₀.now + defaultShutdownTimeoutSeconds ≤ s.now) ∧
    ((∀ p ∈ history, p.2 ≠ .settle) → s.hooks = []) ∧
    ((∀ p ∈ history, p.2 ≠ .force) → s.phase = .stopped → s.hooks.length = cfg.hooks.length) ∧
    ∀ s₀, (s₀, .receive) ∈ history → ∀ j verdict, s₀.evaluations.length ≤ j →
      s.evaluations[j]? = some (.returned verdict) → verdict.statusCode = 503 := by
  refine ⟨?_, ?_, ?_, unhooked_before run, hooked_after run, ?_⟩
  · intro late
    have quiet := (run_shaped run).quiet late
    exact ⟨quiet.closed, quiet.idle⟩
  · intro s₀ sig member first patient lost
    exact dropped_late run member first patient lost
  · intro s₀ member lost
    exact dropped_late_of_err run member lost
  · intro s₀ member j verdict late here
    rcases (flipped_since run member).late j _ late here with impossible | same
    · cases impossible
    · obtain rfl := Evaluation.returned.inj same
      rfl

def Due (s : Process) : Prop :=
  match s.phase with
  | .draining deadline | .waiting deadline _ | .flushing deadline => deadline ≤ s.now
  | _ => False

instance : DecidablePred Due := fun s => by
  unfold Due
  cases s.phase <;> exact inferInstance

def Prompt (p : Process × Action) : Prop := p.2 = .tick → ¬ Due p.1

instance : DecidablePred Prompt := fun p =>
  inferInstanceAs (Decidable (p.2 = .tick → ¬ Due p.1))

def Bounded (due : Nat) (s : Process) : Phase → Prop
  | .starting | .serving => False
  | .draining deadline => s.now ≤ deadline ∧ deadline ≤ due
  | .waiting deadline _ => s.now ≤ deadline ∧ deadline ≤ due + defaultShutdownTimeoutSeconds
  | .flushing deadline => s.now ≤ deadline ∧
      deadline ≤ due + defaultShutdownTimeoutSeconds + defaultShutdownHookTimeoutSeconds
  | .stopped =>
      s.now ≤ due + defaultShutdownTimeoutSeconds + defaultShutdownHookTimeoutSeconds

theorem Bounded.inTime {due : Nat} (bounded : Bounded due s s.phase) :
    s.now ≤ due + defaultShutdownTimeoutSeconds + defaultShutdownHookTimeoutSeconds := by
  cases phase : s.phase with
  | starting | serving =>
      rw [phase] at bounded
      cases bounded
  | draining deadline | waiting deadline call | flushing deadline =>
      rw [phase] at bounded
      obtain ⟨early, soon⟩ := bounded
      omega
  | stopped =>
      rw [phase] at bounded
      exact bounded

theorem Stays.bounded {due : Nat} (stays : Stays s t) (unstopped : s.phase ≠ .stopped)
    (soon : ¬ Due s ∧ t.now = s.now + 1 ∨ t.now = s.now) (bounded : Bounded due s s.phase) :
    Bounded due t t.phase := by
  rw [stays.phase]
  unfold Due at soon
  cases phase : s.phase with
  | starting | serving =>
      rw [phase] at bounded
      cases bounded
  | draining deadline | waiting deadline call | flushing deadline =>
      rw [phase] at bounded soon
      obtain ⟨early, later⟩ := bounded
      refine ⟨?_, later⟩
      dsimp only at soon
      omega
  | stopped => exact absurd phase unstopped

theorem Moves.bounded {due : Nat} (moves : Moves cfg s a t) (unstopped : s.phase ≠ .stopped)
    (prompt : Prompt (s, a)) (bounded : Bounded due s s.phase) : Bounded due t t.phase := by
  have inTime := bounded.inTime
  cases moves with
  | stays _ stays clock =>
      refine stays.bounded unstopped (clock.imp_left ?_) bounded
      rintro ⟨ticks, next⟩
      exact ⟨prompt ticks, next⟩
  | initializes phase | receives phase _ | fails phase =>
      rw [phase] at bounded
      cases bounded
  | drains phase due =>
      rw [phase] at bounded
      exact ⟨Nat.le_add_right _ _, Nat.add_le_add_right (bounded.1.trans bounded.2) _⟩
  | closes _ _ | abandons _ _ | flushes _ _ => exact inTime
  | calls phase | idles phase _ | expires phase _ =>
      rw [phase] at bounded
      exact bounded
  | @settles deadline timedOut phase =>
      rw [phase] at bounded
      have soon := bounded.1.trans bounded.2
      cases timedOut with
      | false => exact ⟨Nat.le_add_right _ _, Nat.add_le_add_right soon _⟩
      | true => exact ⟨Nat.le_add_right _ _, Nat.add_le_add_right soon _⟩

theorem drainAndShutdown_bounded (s : Process) (delay : Nat) :
    Bounded (s.now + delay) (s.drainAndShutdown delay) (s.drainAndShutdown delay).phase := by
  unfold Process.drainAndShutdown
  dsimp only
  split_ifs with some
  · exact ⟨Nat.le_add_right _ _, le_rfl⟩
  · exact ⟨Nat.le_add_right _ _, Nat.add_le_add_right (Nat.le_add_right _ _) _⟩

def ownSteps : List Action := [.tick, .drained, .callShutdown, .shutdownTimeout, .settle, .flushed]

def Goes (cfg : Config) (s t : Process) : Prop :=
  ∃ history, Run (Process.step cfg) s history t ∧ ∀ p ∈ history, p.2 ∈ ownSteps ∧ Prompt p

theorem Goes.trans {u : Process} (first : Goes cfg s t) (second : Goes cfg t u) : Goes cfg s u := by
  obtain ⟨before, run, own⟩ := first
  obtain ⟨after, later, own'⟩ := second
  refine ⟨before ++ after, run.append later, fun p member => ?_⟩
  rcases List.mem_append.mp member with here | here
  · exact own p here
  · exact own' p here

theorem goes_of_step (own : a ∈ ownSteps) (prompt : Prompt (s, a)) (taken : s.step cfg a = some t) :
    Goes cfg s t := by
  refine ⟨_, .single taken, fun p member => ?_⟩
  obtain rfl := List.mem_singleton.mp member
  exact ⟨own, prompt⟩

section Stopping

variable (cfg)

theorem goes_due (deadline : Nat) (unstopped : s.phase ≠ .stopped)
    (set : ∀ now, Due { s with now := now } ↔ deadline ≤ now) :
    ∃ now, deadline ≤ now ∧ Goes cfg s { s with now := now } := by
  induction left : deadline - s.now generalizing s with
  | zero => exact ⟨s.now, by omega, [], .nil, by simp⟩
  | succ left ih =>
      have early : ¬ Due s := fun due => by
        have past := (set s.now).mp due
        omega
      obtain ⟨now, past, goes⟩ := ih (s := { s with now := s.now + 1 }) unstopped set
        (by dsimp only; omega)
      refine ⟨now, past, .trans ?_ goes⟩
      apply goes_of_step (a := .tick) (by simp [ownSteps]) (fun _ => early)
      simp [Process.step, Process.act, unstopped]

theorem flushing_stops {deadline : Nat} (phase : s.phase = .flushing deadline) :
    ∃ t, Goes cfg s t ∧ t.phase = .stopped := by
  obtain ⟨now, due, waits⟩ := goes_due cfg (s := s) deadline (by simp [phase]) (by simp [Due, phase])
  refine ⟨{ s with now := now, phase := .stopped },
    waits.trans (goes_of_step (a := .flushed) (by simp [ownSteps]) nofun ?_), rfl⟩
  simp [Process.step, Process.act, phase, due]

theorem returned_stops {deadline : Nat} {timedOut : Bool}
    (phase : s.phase = .waiting deadline (.returned timedOut)) :
    ∃ t, Goes cfg s t ∧ t.phase = .stopped := by
  obtain ⟨t, goes, stopped⟩ :=
    flushing_stops cfg (s := (if timedOut then s.close else s).runShutdownHooks cfg) rfl
  refine ⟨t, .trans ?_ goes, stopped⟩
  apply goes_of_step (a := .settle) (by simp [ownSteps]) nofun
  simp [Process.step, Process.act, phase]

theorem polling_stops {deadline : Nat} (phase : s.phase = .waiting deadline .polling) :
    ∃ t, Goes cfg s t ∧ t.phase = .stopped := by
  obtain ⟨now, due, waits⟩ := goes_due cfg (s := s) deadline (by simp [phase]) (by simp [Due, phase])
  obtain ⟨t, goes, stopped⟩ := returned_stops cfg
    (s := { s with now := now, phase := .waiting deadline (.returned true) }) rfl
  refine ⟨t, .trans (waits.trans ?_) goes, stopped⟩
  apply goes_of_step (a := .shutdownTimeout) (by simp [ownSteps]) nofun
  simp [Process.step, Process.act, phase, due]

theorem waiting_stops {deadline : Nat} {call : ShutdownCall}
    (phase : s.phase = .waiting deadline call) : ∃ t, Goes cfg s t ∧ t.phase = .stopped := by
  cases call with
  | spawned =>
      obtain ⟨t, goes, stopped⟩ := polling_stops cfg
        (s := { s with phase := .waiting deadline .polling, accepting := false }) rfl
      refine ⟨t, .trans ?_ goes, stopped⟩
      apply goes_of_step (a := .callShutdown) (by simp [ownSteps]) nofun
      simp [Process.step, Process.act, phase]
  | polling => exact polling_stops cfg phase
  | returned timedOut => exact returned_stops cfg phase

/-- No request and no hook can keep a shutdown from its end. -/
theorem bounded_stops {due : Nat} (bounded : Bounded due s s.phase) :
    ∃ t, Goes cfg s t ∧ t.phase = .stopped := by
  cases phase : s.phase with
  | starting | serving =>
      rw [phase] at bounded
      cases bounded
  | stopped => exact ⟨s, ⟨[], .nil, by simp⟩, phase⟩
  | flushing deadline => exact flushing_stops cfg phase
  | waiting deadline call => exact waiting_stops cfg phase
  | draining deadline =>
      obtain ⟨now, past, waits⟩ :=
        goes_due cfg (s := s) deadline (by simp [phase]) (by simp [Due, phase])
      obtain ⟨t, goes, stopped⟩ := waiting_stops cfg (s := { s with now := now }.gracefulShutdown) rfl
      refine ⟨t, .trans (waits.trans ?_) goes, stopped⟩
      apply goes_of_step (a := .drained) (by simp [ownSteps]) nofun
      simp [Process.step, Process.act, phase, past]

end Stopping

theorem bounded_after {due : Nat} {history : List (Process × Action)}
    (run : Run (Process.step cfg) t history s) (prompt : ∀ p ∈ history, Prompt p)
    (bounded : Bounded due t t.phase) : Bounded due s s.phase := by
  apply run.invariant_of (motive := fun s => Bounded due s s.phase) prompt bounded
  intro s a t bounded prompt taken
  obtain ⟨unstopped, moves⟩ := step_moves taken
  exact moves.bounded unstopped prompt bounded

def shutdownSeconds (cfg : Config) (sig : Signal) : Nat :=
  drainDelayForSignal sig cfg.shutdownDrainDelayS + defaultShutdownTimeoutSeconds +
    defaultShutdownHookTimeoutSeconds

/-- A shutdown that is prompt is over in time, and it can always end by itself. -/
theorem shutdown_in_time (cfg : Config) {history : List (Process × Action)} {s : Process}
    (run : Run (Process.step cfg) {} history s) (prompt : ∀ p ∈ history, Prompt p) (s₀ : Process)
    (sig : Signal) (member : (s₀, .receive) ∈ history) (first : s₀.done.head? = some sig) :
    s.now ≤ s₀.now + shutdownSeconds cfg sig ∧
      ∃ t, Goes cfg s t ∧ t.phase = .stopped ∧ t.now ≤ s₀.now + shutdownSeconds cfg sig := by
  obtain ⟨before, after, next, rfl, early, taken, later⟩ := run.cut member
  have start : Bounded (s₀.now + drainDelayForSignal sig cfg.shutdownDrainDelayS) next next.phase := by
    cases (step_moves taken).2 with
    | stays given _ _ => cases given
    | receives phase found =>
        rw [found] at first
        obtain rfl := Option.some.inj first
        exact drainAndShutdown_bounded _ _
  have bounded := bounded_after later (fun p member => prompt p (by simp [member])) start
  obtain ⟨t, ⟨rest, ends, own⟩, stopped⟩ := bounded_stops cfg bounded
  have ended := bounded_after ends (fun p member => (own p member).2) bounded
  have inTime := bounded.inTime
  have endsInTime := ended.inTime
  refine ⟨?_, t, ⟨rest, ends, own⟩, stopped, ?_⟩
  · unfold shutdownSeconds
    omega
  · unfold shutdownSeconds
    omega

def hooked : Config := ⟨defaultShutdownDrainDelayS, ["metrics", "tracing"]⟩

def seconds (n : Nat) : List Action := List.replicate n .tick

def signalled : List Action :=
  [.setInitialized, .accept, .accept, .notify .terminate, .receive, .readyz, .evaluate 0 none]

def flush : List Action :=
  [.shutdownTimeout, .settle, .hookEnds 0 .finished, .hookEnds 1 .panicked, .flushed]

def calling : List Action := [.drained, .callShutdown, .answer 0]

def rolling : List Action := signalled ++ seconds 10 ++ calling ++ seconds 30 ++ flush

theorem shutdown_graceful_rolling : ∃ history s,
    Run (Process.step hooked) {} history s ∧ s.phase = .stopped ∧ Request.dropped ∈ s.requests ∧
      Request.inFlight ∉ s.requests ∧ s.hooks.length = 2 ∧ 40 ≤ s.now := by
  obtain ⟨s, done, stopped, lost, patient, signal⟩ : ∃ s,
      exec (Process.step hooked) {} rolling = some s ∧ s.phase = .stopped ∧
      Request.dropped ∈ s.requests ∧ (∀ a ∈ rolling, a ≠ .force) ∧
      (∃ s₀, (s₀, .receive) ∈ trace (Process.step hooked) {} rolling ∧
        s₀.done.head? = some .terminate) := by
    refine ⟨_, rfl, rfl, by decide, ?_, _, .tail _ (.tail _ (.tail _ (.tail _ (.head _)))), rfl⟩
    simp [rolling, signalled, seconds, calling, flush]
  have run := run_of_exec done
  have patient : ∀ p ∈ trace (Process.step hooked) {} rolling, p.2 ≠ .force := fun p member =>
    patient p.2 (action_of_mem_trace member)
  obtain ⟨s₀, received, first⟩ := signal
  obtain ⟨quiet, spared, -, -, hooks, -⟩ := shutdown_graceful hooked run
  refine ⟨_, s, run, stopped, lost, (quiet (.inl stopped)).2, hooks patient stopped, ?_⟩
  have late := spared s₀ .terminate received first patient lost
  have delay : drainDelayForSignal .terminate hooked.shutdownDrainDelayS = 10 := rfl
  have timeout : defaultShutdownTimeoutSeconds = 30 := rfl
  omega

theorem shutdown_in_time_rolling : ∃ history s,
    Run (Process.step hooked) {} history s ∧ (∀ p ∈ history, Prompt p) ∧ s.phase = .stopped ∧
      s.now ≤ 43 := by
  have prompt : (trace (Process.step hooked) {} rolling).all (fun p => decide (Prompt p)) = true := by
    decide +kernel
  obtain ⟨s, done, stopped, signal⟩ : ∃ s,
      exec (Process.step hooked) {} rolling = some s ∧ s.phase = .stopped ∧
      (∃ s₀, (s₀, .receive) ∈ trace (Process.step hooked) {} rolling ∧ s₀.now = 0 ∧
        s₀.done.head? = some .terminate) :=
    ⟨_, rfl, rfl, _, .tail _ (.tail _ (.tail _ (.tail _ (.head _)))), rfl, rfl⟩
  have run := run_of_exec done
  have prompt : ∀ p ∈ trace (Process.step hooked) {} rolling, Prompt p := fun p member =>
    of_decide_eq_true (List.all_eq_true.mp prompt p member)
  obtain ⟨s₀, received, zero, first⟩ := signal
  have inTime := (shutdown_in_time hooked run prompt s₀ .terminate received first).1
  rw [zero] at inTime
  exact ⟨_, s, run, prompt, stopped, inTime⟩

end BrokerMcp.Proof.Server
