import BrokerMcp.Library.Trace
import BrokerMcp.Resilience.Scheduler

/-!
# The scheduler as a concurrent system

The goroutines around a `Scheduler`: callers in `Enqueue`, `Abandon`, `Release` and `Stop`, and the
one dispatcher goroutine. A critical section of `Scheduler.mu` is one step, with one exception: the
unpaced loop of `dispatchLocked` makes one step per grant, with the mutex held in between. What a
goroutine does outside the mutex is a step of its own: the `signal` after an unlock, the close of
`stopped`, and each receive of the dispatcher's `select`.
-/

namespace BrokerMcp.Resilience

/-- Where the dispatcher goroutine is: in its `select`, past a receive but before the lock, inside
the unpaced loop, past the receive from `stopped`, or returned. -/
inductive Dispatcher where
  | waiting
  | ticked
  | woken
  | granting
  | draining
  | exited
deriving DecidableEq

structure System where
  sched : Scheduler
  wake : Bool
  stopped : Bool
  dispatcher : Dispatcher
  signalling : Nat

def System.start (sem : Semaphore) (enabled : Bool) (limit : Int) : System where
  sched := newScheduler sem enabled limit
  wake := false
  stopped := false
  dispatcher := .waiting
  signalling := 0

inductive Action where
  | enqueue (key : CallerKey)
  | abandon (w : Nat)
  | release (w : Nat)
  | signal
  | stop
  | tick
  | wakeUp
  | pass
  | grant
  | seeStopped
  | drain (order : List (String × List String))

def Action.isTick : Action → Bool
  | .tick => true
  | _ => false

namespace System

def unlocked (st : System) : Bool :=
  st.dispatcher ≠ .granting && !st.sched.sem.wedged

def after (st : System) (result : Scheduler × Bool) : System :=
  { st with sched := result.1, signalling := st.signalling + result.2.toNat }

def step (st : System) : Action → Option System
  | .enqueue key =>
      if st.unlocked then
        some (st.after (st.sched.enqueue st.stopped key, !st.stopped))
      else none
  | .abandon w =>
      if st.unlocked then
        st.sched.waiters[w]?.map fun waiter => st.after (st.sched.abandon w waiter)
      else none
  | .release w =>
      if st.unlocked then
        st.sched.waiters[w]?.map fun waiter => st.after (st.sched.release w waiter)
      else none
  | .signal =>
      if 0 < st.signalling then
        some { st with wake := true, signalling := st.signalling - 1 }
      else none
  | .stop => some { st with stopped := true }
  | .tick =>
      if st.dispatcher = .waiting ∧ st.sched.paced then
        some { st with dispatcher := .ticked }
      else none
  | .wakeUp =>
      if st.dispatcher = .waiting ∧ st.wake then
        some { st with dispatcher := .woken, wake := false }
      else none
  | .pass =>
      if st.unlocked ∧ (st.dispatcher = .ticked ∨ st.dispatcher = .woken) then
        let sched :=
          if st.dispatcher = .ticked then { st.sched with credit := true } else st.sched
        if sched.paced then
          some { st with sched := sched.dispatchLocked, dispatcher := .waiting }
        else some { st with sched := sched, dispatcher := .granting }
      else none
  | .grant =>
      if st.dispatcher = .granting ∧ !st.sched.sem.wedged then
        match st.sched.grantOneLocked with
        | none => some { st with dispatcher := .waiting }
        | some (sched, _) => some { st with sched := sched }
      else none
  | .seeStopped =>
      if st.dispatcher = .waiting ∧ st.stopped then
        some { st with dispatcher := .draining }
      else none
  | .drain order =>
      if st.unlocked ∧ st.dispatcher = .draining ∧ st.sched.RangesOver order then
        some { st with sched := st.sched.drain order, dispatcher := .exited }
      else none

def granted (st : System) : Action → Option Nat
  | .pass =>
      if st.sched.paced ∧ (st.dispatcher = .ticked ∨ st.dispatcher = .woken ∧ st.sched.credit) then
        st.sched.grantOneLocked.map Prod.snd
      else none
  | .grant => st.sched.grantOneLocked.map Prod.snd
  | _ => none

def grantee (st : System) (a : Action) : Option CallerKey :=
  (st.granted a).bind fun w => st.sched.waiters[w]?.map Waiter.key

end System

def Reachable (cap : Nat) (enabled : Bool) (limit : Int) (st : System) : Prop :=
  ∃ history, Transition.Run System.step (.start ⟨cap, 0, false⟩ enabled limit) history st

end BrokerMcp.Resilience
