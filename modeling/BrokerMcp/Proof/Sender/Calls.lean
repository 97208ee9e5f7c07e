import BrokerMcp.Resilience.Sender

namespace BrokerMcp.Proof.Sender
open Resilience

def after : GivenUp → Phase
  | .done err => .refused (.context err)
  | .expired stage => .shedding stage

inductive Reacts (s : Senders) (i : Nat) (c : Call) : Gate → Call → Prop where
  | contextEnds (err : ContextError) : Reacts s i c s.gate { c with ctxErr := some err }
  | warned : Reacts s i c s.gate { c with slow := false }
  | permitted (phase : c.phase = .rateLimitGate) :
      Reacts s i c s.gate { c with phase := .concurrencyGate }
  | acquired (sem : Semaphore) (plain : s.gate = .unscheduled sem)
      (phase : c.phase = .concurrencyGate) (room : sem.len < sem.cap) :
      Reacts s i c (.unscheduled sem.send) { c with
        phase := .admitted
        took := c.took + (sem.send.len - sem.len) }
  | cutOff (phase : c.phase = .rateLimitGate ∨ c.phase = .concurrencyGate) (err : AdmissionError) :
      Reacts s i c s.gate { c with phase := .refused err }
  | timedOut (phase : c.phase = .rateLimitGate ∨ c.phase = .concurrencyGate)
      (stage : AdmissionStage) : Reacts s i c s.gate { c with phase := .shedding stage }
  | observed (st : System) (fair : s.gate = .scheduled st) (phase : c.phase = .queued)
      (w : Waiter) (known : st.sched.waiters[i]? = some w) (closed : 0 < w.closes)
      (sound : w.err = none) : Reacts s i c s.gate { c with phase := .admitted }
  | stopped (st : System) (fair : s.gate = .scheduled st) (phase : c.phase = .queued)
      (w : Waiter) (known : st.sched.waiters[i]? = some w) (failed : w.err.isSome = true)
      (err : AdmissionError) : Reacts s i c s.gate { c with phase := .refused err }
  | givesUp (phase : c.phase = .queued) (how : GivenUp) :
      Reacts s i c s.gate { c with phase := .abandoning how }
  | abandoned (st st' : System) (fair : s.gate = .scheduled st) (how : GivenUp)
      (phase : c.phase = .abandoning how) (taken : st.step (.abandon i) = some st') :
      Reacts s i c (.scheduled st') { c with
        phase := after how
        gave := c.gave + (st.sched.sem.len - st'.sched.sem.len) }
  | shed (stage : AdmissionStage) (phase : c.phase = .shedding stage) (err : AdmissionError) :
      Reacts s i c s.gate { c with phase := .refused err }
  | wrappingFails (phase : c.phase = .admitted) :
      Reacts s i c s.gate { c with phase := .leaving .unwrapped }
  | invoked (phase : c.phase = .admitted) :
      Reacts s i c s.gate { c with phase := .sending, invocations := c.invocations + 1 }
  | finished (phase : c.phase = .sending) (how : Exit) :
      Reacts s i c s.gate { c with phase := .leaving how }
  | released (st st' : System) (fair : s.gate = .scheduled st) (how : Exit)
      (phase : c.phase = .leaving how) (taken : st.step (.release i) = some st') :
      Reacts s i c (.scheduled st') { c with
        phase := .left how
        releases := c.releases + 1
        gave := c.gave + (st.sched.sem.len - st'.sched.sem.len) }
  | received (sem : Semaphore) (plain : s.gate = .unscheduled sem) (how : Exit)
      (phase : c.phase = .leaving how) (occupied : 0 < sem.len) :
      Reacts s i c (.unscheduled sem.receive) { c with
        phase := .left how
        releases := c.releases + 1
        gave := c.gave + (sem.len - sem.receive.len) }

section Inversion

variable {s : Senders} {i : Nat} {c c' : Call} {gate : Gate}

theorem ready_reacts (reaction : s.react i c .ready = some (gate, c')) : Reacts s i c gate c' := by
  simp only [Senders.react] at reaction
  split at reaction
  · rename_i st phase fair
    obtain ⟨w, known, reaction⟩ := Option.bind_eq_some_iff.mp reaction
    split_ifs at reaction with closed
    split at reaction
    · rename_i failed
      cases reaction
      exact .stopped st fair phase w known (by simp [failed]) _
    · rename_i sound
      cases reaction
      exact .observed st fair phase w known closed sound
  · cases reaction

theorem done_reacts (reaction : s.react i c .done = some (gate, c')) : Reacts s i c gate c' := by
  simp only [Senders.react] at reaction
  obtain ⟨err, -, reaction⟩ := Option.bind_eq_some_iff.mp reaction
  split at reaction
  · rename_i phase
    cases reaction
    exact .cutOff (.inl phase) _
  · rename_i phase
    cases reaction
    exact .cutOff (.inr phase) _
  · rename_i phase
    cases reaction
    exact .givesUp phase _
  · cases reaction

theorem expired_reacts (reaction : s.react i c .expired = some (gate, c')) :
    Reacts s i c gate c' := by
  simp only [Senders.react] at reaction
  split_ifs at reaction
  split at reaction
  · rename_i phase
    cases reaction
    exact .timedOut (.inl phase) _
  · rename_i phase
    cases reaction
    exact .timedOut (.inr phase) _
  · rename_i st phase fair
    split_ifs at reaction
    obtain ⟨w, -, same⟩ := Option.map_eq_some_iff.mp reaction
    cases same
    exact .givesUp phase _
  · cases reaction

theorem slow_reacts (reaction : s.react i c .slow = some (gate, c')) : Reacts s i c gate c' := by
  simp only [Senders.react] at reaction
  split_ifs at reaction
  split at reaction
  · cases reaction
    exact .warned
  · cases reaction
    exact .warned
  · split_ifs at reaction
    cases reaction
    exact .warned
  · cases reaction

theorem release_reacts (reaction : s.react i c .release = some (gate, c')) :
    Reacts s i c gate c' := by
  simp only [Senders.react] at reaction
  split at reaction
  · rename_i how st phase fair
    obtain ⟨st', taken, same⟩ := Option.map_eq_some_iff.mp reaction
    cases same
    exact .released st st' fair how phase taken
  · rename_i how sem phase plain
    split_ifs at reaction with occupied
    cases reaction
    exact .received sem plain how phase occupied
  · cases reaction

theorem react_reacts {e : Event} (reaction : s.react i c e = some (gate, c')) :
    Reacts s i c gate c' := by
  cases e with
  | ready => exact ready_reacts reaction
  | done => exact done_reacts reaction
  | expired => exact expired_reacts reaction
  | slow => exact slow_reacts reaction
  | release => exact release_reacts reaction
  | contextEnds err =>
      simp only [Senders.react] at reaction
      split_ifs at reaction
      cases reaction
      exact .contextEnds err
  | acquired =>
      simp only [Senders.react] at reaction
      split at reaction
      · rename_i sem phase plain
        split_ifs at reaction with room
        cases reaction
        exact .acquired sem plain phase room
      · cases reaction
  | abandon =>
      simp only [Senders.react] at reaction
      split at reaction
      · rename_i how st phase fair
        obtain ⟨st', taken, same⟩ := Option.map_eq_some_iff.mp reaction
        cases same
        cases how <;> exact .abandoned st st' fair _ phase taken
      · cases reaction
  | permitted =>
      simp only [Senders.react] at reaction
      split at reaction <;> cases reaction
      exact .permitted ‹_›
  | shed late =>
      simp only [Senders.react] at reaction
      split at reaction <;> cases reaction
      exact .shed _ ‹_› _
  | wrappingFails =>
      simp only [Senders.react] at reaction
      split at reaction <;> cases reaction
      exact .wrappingFails ‹_›
  | invoke =>
      simp only [Senders.react] at reaction
      split at reaction <;> cases reaction
      exact .invoked ‹_›
  | answer | panics =>
      simp only [Senders.react] at reaction
      split at reaction <;> cases reaction
      exact .finished ‹_› _

end Inversion

inductive Acts (s : Senders) : Senders → Prop where
  | called (sem : Semaphore) (plain : s.gate = .unscheduled sem) (slow : Bool) :
      Acts s { s with gate := .unscheduled sem, calls := s.calls ++ [.new .rateLimitGate slow] }
  | enqueued (st st' : System) (fair : s.gate = .scheduled st) (key : CallerKey)
      (taken : st.step (.enqueue key) = some st') (slow : Bool) :
      Acts s { s with gate := .scheduled st', calls := s.calls ++ [.new .queued slow] }
  | scheduled (st st' : System) (fair : s.gate = .scheduled st) (a : Action)
      (internal : a.isInternal = true) (taken : st.step a = some st') :
      Acts s { s with gate := .scheduled st', calls := Senders.charge s.calls st a st' }
  | reacted (i : Nat) (c c' : Call) (gate : Gate) (known : s.calls[i]? = some c)
      (reacts : Reacts s i c gate c') : Acts s { s with gate, calls := s.calls.set i c' }

theorem step_acts {s s' : Senders} {a : Activity} (step : s.step a = some s') : Acts s s' := by
  cases a with
  | call key =>
      simp only [Senders.step] at step
      cases gate : s.gate with
      | unscheduled sem =>
          rw [gate] at step
          obtain rfl := Option.some.inj step
          exact .called sem gate _
      | scheduled st =>
          rw [gate] at step
          obtain ⟨st', taken, rfl⟩ := Option.map_eq_some_iff.mp step
          exact .enqueued st st' gate key taken _
  | schedule a =>
      simp only [Senders.step] at step
      cases gate : s.gate with
      | unscheduled sem => simp [gate] at step
      | scheduled st =>
          rw [gate] at step
          simp only at step
          split_ifs at step with internal
          obtain ⟨st', taken, rfl⟩ := Option.map_eq_some_iff.mp step
          exact .scheduled st st' gate a internal taken
  | event i e =>
      obtain ⟨c, known, rest⟩ := Option.bind_eq_some_iff.mp step
      obtain ⟨⟨gate, c'⟩, reaction, same⟩ := Option.bind_eq_some_iff.mp rest
      obtain rfl := Option.some.inj same
      exact .reacted i c c' gate known (react_reacts reaction)

def sent : Phase → Bool
  | .sending | .leaving _ | .left _ => true
  | _ => false

def gone : Phase → Bool
  | .left _ => true
  | _ => false

structure Counted (c : Call) : Prop where
  invocations : c.invocations ≤ (sent c.phase).toNat
  releases : c.releases = (gone c.phase).toNat

theorem Reacts.counted {s : Senders} {i : Nat} {c c' : Call} {gate : Gate} (counted : Counted c)
    (reacts : Reacts s i c gate c') : Counted c' := by
  obtain ⟨invocations, releases⟩ := counted
  cases reacts with
  | contextEnds | warned => exact ⟨invocations, releases⟩
  | cutOff phase | timedOut phase =>
      rcases phase with phase | phase <;>
        exact ⟨by simpa [phase, sent] using invocations, by simpa [phase, gone] using releases⟩
  | abandoned _ _ _ how phase =>
      have unsent : sent (after how) = false := by cases how <;> rfl
      have here : gone (after how) = false := by cases how <;> rfl
      simp only [phase, sent, gone] at invocations releases
      exact ⟨by simpa [unsent] using invocations, by simpa [here] using releases⟩
  | invoked phase | released _ _ _ _ phase | received _ _ _ phase =>
      exact ⟨by simpa [phase, sent] using invocations, by simpa [phase, gone] using releases⟩
  | permitted phase | acquired _ _ phase | observed _ _ phase | stopped _ _ phase | givesUp phase
  | shed _ phase | wrappingFails phase | finished phase =>
      refine ⟨invocations.trans ?_, by simpa [phase, gone] using releases⟩
      simp [phase, sent]

structure Stays (c c' : Call) : Prop where
  phase : c'.phase = c.phase
  invocations : c'.invocations = c.invocations
  releases : c'.releases = c.releases
  took : c'.took = c.took
  gave : c'.gave = c.gave

theorem Stays.refl (c : Call) : Stays c c := ⟨rfl, rfl, rfl, rfl, rfl⟩

theorem Stays.trans {c d e : Call} (first : Stays c d) (second : Stays d e) : Stays c e :=
  ⟨second.phase.trans first.phase, second.invocations.trans first.invocations,
    second.releases.trans first.releases, second.took.trans first.took,
    second.gave.trans first.gave⟩

theorem Reacts.stays {s : Senders} {i : Nat} {c c' : Call} {gate : Gate} (ended : c.ended = true)
    (reacts : Reacts s i c gate c') : Stays c c' := by
  cases reacts with
  | contextEnds | warned => exact ⟨rfl, rfl, rfl, rfl, rfl⟩
  | cutOff phase | timedOut phase =>
      rcases phase with phase | phase <;> simp [Call.ended, phase] at ended
  | permitted phase | acquired _ _ phase | observed _ _ phase | stopped _ _ phase | givesUp phase
  | abandoned _ _ _ _ phase | shed _ phase | wrappingFails phase | invoked phase | finished phase
  | released _ _ _ _ phase | received _ _ _ phase => simp [Call.ended, phase] at ended

end BrokerMcp.Proof.Sender
