import BrokerMcp.Resilience.Dispatcher

/-!
# Admission in the sender

The `Do` calls of the senders of one broker, which share its semaphore and, with fair scheduling on,
its scheduler. A call is a state machine whose phases are the points of `Sender.Do` another goroutine
can interleave with: the two gates of `admit`, the `select` of `admitScheduled`, the way from there
to `Abandon` and to `shed`, the retry client, and the deferred `releaseAdmission`.

* The waiter of a call is the one `Enqueue` returned to it, so call and waiter have the same index.
* A receive from the rate limiter, the two timers and the end of the caller's context can happen at
  any moment at which the `select` listens for them.
* `took` and `gave` are not in the source: they record by how much the length of the semaphore rose
  for the call and fell by its hand.
-/

namespace BrokerMcp.Resilience

inductive AdmissionStage where
  | rateLimit
  | concurrency
deriving DecidableEq

def Scheduler.stage (s : Scheduler) (w : Waiter) : AdmissionStage :=
  match s.subjects.lookup w.key.subject with
  | none => .rateLimit
  | some subj =>
      if !s.eligibleLocked w.key.subject subj then .concurrency
      else
        match subj.sessions.lookup w.key.session with
        | none => .rateLimit
        | some cs =>
            if !s.sessionEligibleLocked subj w.key.session cs then .concurrency else .rateLimit

inductive ContextError where
  | canceled
  | deadlineExceeded
deriving DecidableEq

inductive AdmissionError where
  | context (err : ContextError)
  | brokerBusy (stage : AdmissionStage) (maxWait : Int)
deriving DecidableEq

/-- `late` is the comparison of the caller's deadline with the clock. -/
def shed (late : Bool) (err : Option ContextError) (stage : AdmissionStage) (maxWait : Int) :
    AdmissionError :=
  if late then .context .deadlineExceeded
  else
    match err with
    | some err => .context err
    | none => .brokerBusy stage maxWait

/-- Which arm of its `select` a call left by, with what it has read since. -/
inductive GivenUp where
  | done (err : ContextError)
  | expired (stage : AdmissionStage)
deriving DecidableEq

inductive Exit where
  | unwrapped
  | answered
  | panicked
deriving DecidableEq

inductive Phase where
  | rateLimitGate
  | concurrencyGate
  | queued
  | abandoning (how : GivenUp)
  | shedding (stage : AdmissionStage)
  | refused (err : AdmissionError)
  | admitted
  | sending
  | leaving (how : Exit)
  | left (how : Exit)
deriving DecidableEq

structure Call where
  phase : Phase
  slow : Bool
  ctxErr : Option ContextError
  invocations : Nat
  releases : Nat
  took : Nat
  gave : Nat

def Call.new (phase : Phase) (slow : Bool) : Call := ⟨phase, slow, none, 0, 0, 0, 0⟩

def Call.ended (c : Call) : Bool :=
  match c.phase with
  | .refused _ | .left _ => true
  | _ => false

def Call.between (c : Call) : Bool :=
  match c.phase with
  | .admitted | .sending | .leaving _ => true
  | _ => false

def Call.unaware (c : Call) : Bool :=
  match c.phase with
  | .queued | .abandoning _ => true
  | _ => false

inductive Gate where
  | unscheduled (sem : Semaphore)
  | scheduled (st : System)

def Gate.sem : Gate → Semaphore
  | .unscheduled sem => sem
  | .scheduled st => st.sched.sem

inductive Event where
  | contextEnds (err : ContextError)
  | permitted
  | acquired
  | ready
  | done
  | expired
  | slow
  | abandon
  | shed (late : Bool)
  | wrappingFails
  | invoke
  | answer
  | panics
  | release

structure Senders where
  maxQueueWait : Int
  slowAdmissionAfter : Int
  gate : Gate
  calls : List Call

namespace Senders

def start (fair enabled : Bool) (n limit maxQueueWait slowAdmissionAfter : Int) : Senders where
  maxQueueWait
  slowAdmissionAfter
  gate :=
    if fair then .scheduled (.start (newSemaphore n) enabled limit)
    else .unscheduled (newSemaphore n)
  calls := []

def react (s : Senders) (i : Nat) (c : Call) : Event → Option (Gate × Call)
  | .contextEnds err =>
      if c.ctxErr.isNone then some (s.gate, { c with ctxErr := some err }) else none
  | .permitted =>
      match c.phase with
      | .rateLimitGate => some (s.gate, { c with phase := .concurrencyGate })
      | _ => none
  | .acquired =>
      match c.phase, s.gate with
      | .concurrencyGate, .unscheduled sem =>
          if sem.len < sem.cap then
            some (.unscheduled sem.send, { c with
              phase := .admitted
              took := c.took + (sem.send.len - sem.len) })
          else none
      | _, _ => none
  | .ready =>
      match c.phase, s.gate with
      | .queued, .scheduled st => do
          let w ← st.sched.waiters[i]?
          if 0 < w.closes then
            match w.err with
            | some .errSchedulerStopped => some (s.gate, { c with
                phase := .refused (.brokerBusy .concurrency s.maxQueueWait) })
            | none => some (s.gate, { c with phase := .admitted })
          else none
      | _, _ => none
  | .done => do
      let err ← c.ctxErr
      match c.phase with
      | .rateLimitGate | .concurrencyGate =>
          some (s.gate, { c with phase := .refused (.context err) })
      | .queued => some (s.gate, { c with phase := .abandoning (.done err) })
      | _ => none
  | .expired =>
      if s.maxQueueWait > 0 then
        match c.phase, s.gate with
        | .rateLimitGate, _ => some (s.gate, { c with phase := .shedding .rateLimit })
        | .concurrencyGate, _ => some (s.gate, { c with phase := .shedding .concurrency })
        | .queued, .scheduled st =>
            if st.unlocked then
              st.sched.waiters[i]?.map fun w =>
                (s.gate, { c with phase := .abandoning (.expired (st.sched.stage w)) })
            else none
        | _, _ => none
      else none
  | .slow =>
      if c.slow then
        match c.phase, s.gate with
        | .rateLimitGate, _ | .concurrencyGate, _ => some (s.gate, { c with slow := false })
        -- The warning names the stage, which is read under the lock.
        | .queued, .scheduled st =>
            if st.unlocked then some (s.gate, { c with slow := false }) else none
        | _, _ => none
      else none
  | .abandon =>
      match c.phase, s.gate with
      | .abandoning how, .scheduled st =>
          (st.step (.abandon i)).map fun st' => (.scheduled st', { c with
            phase :=
              match how with
              | .done err => .refused (.context err)
              | .expired stage => .shedding stage
            gave := c.gave + (st.sched.sem.len - st'.sched.sem.len) })
      | _, _ => none
  | .shed late =>
      match c.phase with
      | .shedding stage => some (s.gate, { c with
          phase := .refused (Resilience.shed late c.ctxErr stage s.maxQueueWait) })
      | _ => none
  | .wrappingFails =>
      match c.phase with
      | .admitted => some (s.gate, { c with phase := .leaving .unwrapped })
      | _ => none
  | .invoke =>
      match c.phase with
      | .admitted => some (s.gate, { c with phase := .sending, invocations := c.invocations + 1 })
      | _ => none
  | .answer =>
      match c.phase with
      | .sending => some (s.gate, { c with phase := .leaving .answered })
      | _ => none
  | .panics =>
      match c.phase with
      | .sending => some (s.gate, { c with phase := .leaving .panicked })
      | _ => none
  | .release =>
      match c.phase, s.gate with
      | .leaving how, .scheduled st =>
          (st.step (.release i)).map fun st' => (.scheduled st', { c with
            phase := .left how
            releases := c.releases + 1
            gave := c.gave + (st.sched.sem.len - st'.sched.sem.len) })
      | .leaving how, .unscheduled sem =>
          if 0 < sem.len then
            some (.unscheduled sem.receive, { c with
              phase := .left how
              releases := c.releases + 1
              gave := c.gave + (sem.len - sem.receive.len) })
          else none
      | _, _ => none

end Senders

def Action.isInternal : Action → Bool
  | .enqueue _ | .abandon _ | .release _ => false
  | _ => true

inductive Activity where
  | call (key : CallerKey)
  | schedule (a : Action)
  | event (i : Nat) (e : Event)

namespace Senders

/-- The call that a step of the scheduler grants a slot has taken what the semaphore gained. -/
def charge (calls : List Call) (st : System) (a : Action) (st' : System) : List Call :=
  match st.granted a with
  | none => calls
  | some i => calls.modify i fun c =>
      { c with took := c.took + (st'.sched.sem.len - st.sched.sem.len) }

def step (s : Senders) : Activity → Option Senders
  | .call key =>
      let slow := decide (s.slowAdmissionAfter > 0)
      match s.gate with
      | .unscheduled _ => some { s with calls := s.calls ++ [.new .rateLimitGate slow] }
      | .scheduled st =>
          (st.step (.enqueue key)).map fun st' => { s with
            gate := .scheduled st'
            calls := s.calls ++ [.new .queued slow] }
  | .schedule a =>
      match s.gate with
      | .unscheduled _ => none
      | .scheduled st =>
          if a.isInternal then
            (st.step a).map fun st' => { s with
              gate := .scheduled st'
              calls := charge s.calls st a st' }
          else none
  | .event i e => do
      let c ← s.calls[i]?
      let (gate, c) ← s.react i c e
      some { s with gate, calls := s.calls.set i c }

def unobserved (s : Senders) : Nat :=
  match s.gate with
  | .unscheduled _ => 0
  | .scheduled st =>
      (s.calls.zip st.sched.waiters).countP fun p => p.1.unaware && (p.2.granted && !p.2.resolved)

end Senders
end BrokerMcp.Resilience
