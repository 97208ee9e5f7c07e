import BrokerMcp.Library.Table
import BrokerMcp.Resilience.Rotor

/-!
# The admission scheduler

`scheduler.go`, the part that runs under `Scheduler.mu`.

* A `*Waiter` is an index into the list of the waiters `Enqueue` has returned, so what the scheduler
  writes through the pointer is an update of that list. `closes` counts how often `ready` was closed.
* A subject or session that the source passes by pointer is passed with its key. `subject` and
  `session` read an entry, or the one `Enqueue` would create for it.
* `wedged` records a goroutine parked on the semaphore while it holds `Scheduler.mu`.
* `enabled` in `newScheduler` is `RateLimiter.Enabled`.
* `enqueue`, `abandon` and `release` are the methods up to their unlock; the last two also say
  whether the method goes on to signal the dispatcher.
* `drain` is given the order that ranging over the two maps happens to produce.
-/

namespace BrokerMcp.Resilience

structure CallerKey where
  subject : String
  session : String
deriving DecidableEq

inductive SchedulerError where
  | errSchedulerStopped
deriving DecidableEq

structure Waiter where
  key : CallerKey
  closes : Nat
  granted : Bool
  err : Option SchedulerError
  resolved : Bool

def Waiter.new (key : CallerKey) : Waiter := ⟨key, 0, false, none, false⟩

def Waiter.stop (w : Waiter) : Waiter :=
  { w with err := some .errSchedulerStopped, closes := w.closes + 1 }

def Waiter.grant (w : Waiter) : Waiter :=
  { w with granted := true, closes := w.closes + 1 }

def Waiter.resolve (w : Waiter) : Waiter := { w with resolved := true }

structure Semaphore where
  cap : Nat
  len : Nat
  wedged : Bool

def defaultMaxConcurrentPerBroker : Nat := 10

def newSemaphore (n : Int) : Semaphore :=
  ⟨if n < 1 then defaultMaxConcurrentPerBroker else n.toNat, 0, false⟩

def Semaphore.send (c : Semaphore) : Semaphore :=
  if c.len < c.cap then { c with len := c.len + 1 } else { c with wedged := true }

def Semaphore.receive (c : Semaphore) : Semaphore :=
  if 0 < c.len then { c with len := c.len - 1 } else { c with wedged := true }

structure SessionState where
  queue : List Nat
  inFlight : Nat

def SessionState.new : SessionState := ⟨[], 0⟩

def SessionState.active (cs : SessionState) : Bool :=
  !cs.queue.isEmpty || decide (cs.inFlight > 0)

structure SubjectState where
  sessions : AList fun _ : String => SessionState
  rotor : Rotor
  inFlight : Nat

def SubjectState.new : SubjectState := ⟨∅, .empty, 0⟩

namespace SubjectState

def hasQueued (subj : SubjectState) : Bool :=
  subj.sessions.any fun _ cs => !cs.queue.isEmpty

def active (subj : SubjectState) : Bool := decide (subj.sessions.size > 0)

def hasStarvedSession (subj : SubjectState) (except : String) : Bool :=
  subj.sessions.any fun sessKey cs =>
    sessKey ≠ except && cs.inFlight = 0 && !cs.queue.isEmpty

def session (subj : SubjectState) (sessKey : String) : SessionState :=
  (subj.sessions.lookup sessKey).getD .new

end SubjectState

structure Scheduler where
  waiters : List Waiter
  subjects : AList fun _ : String => SubjectState
  rotor : Rotor
  credit : Bool
  sem : Semaphore
  limit : Nat
  inFlight : Nat
  paced : Bool

def newScheduler (sem : Semaphore) (enabled : Bool) (limit : Int) : Scheduler where
  waiters := []
  subjects := ∅
  rotor := .empty
  credit := false
  sem := sem
  limit := if limit < 1 ∨ limit > sem.cap then sem.cap else limit.toNat
  inFlight := 0
  paced := enabled

namespace Scheduler

def subject (s : Scheduler) (subjKey : String) : SubjectState :=
  (s.subjects.lookup subjKey).getD .new

def session (s : Scheduler) (key : CallerKey) : SessionState :=
  (s.subject key.subject).session key.session

/-! ## Eligibility -/

def subjectCeilingLocked (s : Scheduler) : Nat :=
  let active := if s.subjects.size < 1 then 1 else s.subjects.size
  let ceiling := (s.limit + active - 1) / active
  if ceiling < 1 then 1 else ceiling

def hasStarvedSubjectLocked (s : Scheduler) (except : String) : Bool :=
  s.subjects.any fun subjKey subj =>
    subjKey ≠ except && subj.inFlight = 0 && subj.hasQueued

def eligibleLocked (s : Scheduler) (subjKey : String) (subj : SubjectState) : Bool :=
  let free := s.limit - s.inFlight
  if free = 0 then false
  else if subj.inFlight ≥ s.subjectCeilingLocked then false
  else if s.limit > 1 && free = 1 && subj.inFlight > 0 && s.hasStarvedSubjectLocked subjKey then
    false
  else true

def sessionEligibleLocked (s : Scheduler) (subj : SubjectState) (sessKey : String)
    (cs : SessionState) : Bool :=
  let ceiling := s.subjectCeilingLocked
  let n := if subj.sessions.size < 1 then 1 else subj.sessions.size
  let sessionCeiling := (ceiling + n - 1) / n
  let sessionCeiling := if sessionCeiling < 1 then 1 else sessionCeiling
  let headroom := ceiling - subj.inFlight
  if cs.inFlight ≥ sessionCeiling then false
  else if ceiling > 1 && headroom = 1 && cs.inFlight > 0 && subj.hasStarvedSession sessKey then
    false
  else true

/-! ## Granting -/

-- The loop body of `dequeueLocked`.
def visitSession (s : Scheduler) (subj : SubjectState) (i : Nat) (sessKey : String) :
    Option (Nat × SubjectState) := do
  let cs ← subj.sessions.lookup sessKey
  match cs.queue with
  | [] => none
  | w :: rest =>
      if s.sessionEligibleLocked subj sessKey cs then
        some (w, { subj with
          sessions := subj.sessions.insert sessKey { cs with queue := rest }
          rotor := subj.rotor.advancePast i })
      else none

def dequeueLocked (s : Scheduler) (subj : SubjectState) : Option (Nat × SubjectState) :=
  subj.rotor.scan (s.visitSession subj)

def pruneSessionLocked (s : Scheduler) (key : CallerKey) : Scheduler :=
  match s.subjects.lookup key.subject with
  | none => s
  | some subj =>
      match subj.sessions.lookup key.session with
      | none => s
      | some cs =>
          if cs.active then s
          else
            let subj := { subj with
              sessions := subj.sessions.erase key.session
              rotor := subj.rotor.remove key.session }
            if subj.active then { s with subjects := s.subjects.insert key.subject subj }
            else { s with
              subjects := s.subjects.erase key.subject
              rotor := s.rotor.remove key.subject }

-- The tail of `grantOneLocked`, once `dequeueLocked` has taken `w` and left the subject as `subj`.
def grantTo (s : Scheduler) (i : Nat) (subjKey : String) (subj : SubjectState) (w : Nat)
    (key : CallerKey) : Scheduler :=
  let cs := subj.session key.session
  let subj := { subj with
    inFlight := subj.inFlight + 1
    sessions := subj.sessions.insert key.session { cs with inFlight := cs.inFlight + 1 } }
  pruneSessionLocked { s with
    waiters := s.waiters.modify w Waiter.grant
    sem := s.sem.send
    inFlight := s.inFlight + 1
    subjects := s.subjects.insert subjKey subj
    rotor := s.rotor.advancePast i } key

-- The loop body of `grantOneLocked`.
def visitSubject (s : Scheduler) (i : Nat) (subjKey : String) : Option (Scheduler × Nat) := do
  let subj ← s.subjects.lookup subjKey
  if !subj.hasQueued then none
  else if !s.eligibleLocked subjKey subj then none
  else
    let (w, subj) ← s.dequeueLocked subj
    let waiter ← s.waiters[w]?
    some (s.grantTo i subjKey subj w waiter.key, w)

def grantOneLocked (s : Scheduler) : Option (Scheduler × Nat) :=
  s.rotor.scan s.visitSubject

-- The loop of `dispatchLocked` with pacing off. A grant needs a free slot, so the fuel is the
-- number of free slots.
def grantAllLocked : Nat → Scheduler → Scheduler
  | 0, s => s
  | fuel + 1, s =>
      match s.grantOneLocked with
      | none => s
      | some (s, _) => grantAllLocked fuel s

def dispatchLocked (s : Scheduler) : Scheduler :=
  if !s.paced then grantAllLocked (s.limit - s.inFlight) s
  else if !s.credit then s
  else
    match s.grantOneLocked with
    | none => s
    | some (s, _) => { s with credit := false }

/-! ## The operations of callers -/

def enqueue (s : Scheduler) (stopped : Bool) (key : CallerKey) : Scheduler :=
  if stopped then { s with waiters := s.waiters ++ [(Waiter.new key).stop] }
  else
    let subj := s.subject key.subject
    let cs := subj.session key.session
    let sessRotor :=
      if (subj.sessions.lookup key.session).isSome then subj.rotor
      else subj.rotor.insert key.session
    { s with
      waiters := s.waiters ++ [Waiter.new key]
      rotor :=
        if (s.subjects.lookup key.subject).isSome then s.rotor else s.rotor.insert key.subject
      subjects := s.subjects.insert key.subject { subj with
        rotor := sessRotor
        sessions := subj.sessions.insert key.session
          { cs with queue := cs.queue ++ [s.waiters.length] } } }

def releaseLocked (s : Scheduler) (key : CallerKey) : Scheduler :=
  match s.subjects.lookup key.subject with
  | none => s
  | some subj =>
      match subj.sessions.lookup key.session with
      | none => s
      | some cs =>
          if cs.inFlight = 0 then s
          else
            pruneSessionLocked { s with
              sem := s.sem.receive
              inFlight := s.inFlight - 1
              subjects := s.subjects.insert key.subject { subj with
                inFlight := subj.inFlight - 1
                sessions := subj.sessions.insert key.session
                  { cs with inFlight := cs.inFlight - 1 } } } key

def removeFromQueueLocked (s : Scheduler) (w : Nat) (key : CallerKey) : Scheduler :=
  match s.subjects.lookup key.subject with
  | none => s
  | some subj =>
      match subj.sessions.lookup key.session with
      | none => s
      | some cs =>
          pruneSessionLocked { s with
            subjects := s.subjects.insert key.subject { subj with
              sessions := subj.sessions.insert key.session
                { cs with queue := cs.queue.erase w } } } key

def abandon (s : Scheduler) (w : Nat) (waiter : Waiter) : Scheduler × Bool :=
  if waiter.resolved then (s, false)
  else
    let s := { s with waiters := s.waiters.modify w Waiter.resolve }
    if waiter.granted then (s.releaseLocked waiter.key, true)
    else (s.removeFromQueueLocked w waiter.key, false)

def release (s : Scheduler) (w : Nat) (waiter : Waiter) : Scheduler × Bool :=
  if waiter.resolved || !waiter.granted then (s, false)
  else
    let s := { s with waiters := s.waiters.modify w Waiter.resolve }
    (s.releaseLocked waiter.key, true)

/-! ## Shutting down -/

def drainSession (acc : List Waiter × SubjectState) (sessKey : String) :
    List Waiter × SubjectState :=
  match acc.2.sessions.lookup sessKey with
  | none => acc
  | some cs =>
      let waiters := cs.queue.foldl (fun ws w => ws.modify w Waiter.stop) acc.1
      let cs := { cs with queue := [] }
      if cs.active then
        (waiters, { acc.2 with sessions := acc.2.sessions.insert sessKey cs })
      else
        (waiters, { acc.2 with
          sessions := acc.2.sessions.erase sessKey
          rotor := acc.2.rotor.remove sessKey })

def drainSubject (s : Scheduler) (entry : String × List String) : Scheduler :=
  match s.subjects.lookup entry.1 with
  | none => s
  | some subj =>
      let (waiters, subj) := entry.2.foldl drainSession (s.waiters, subj)
      if subj.active then
        { s with waiters, subjects := s.subjects.insert entry.1 subj }
      else
        { s with
          waiters
          subjects := s.subjects.erase entry.1
          rotor := s.rotor.remove entry.1 }

def drain (s : Scheduler) (order : List (String × List String)) : Scheduler :=
  order.foldl drainSubject s

def RangesOver (s : Scheduler) (order : List (String × List String)) : Prop :=
  (order.map Prod.fst).Perm s.subjects.keys ∧
    ∀ entry ∈ order, entry.2.Perm (s.subject entry.1).sessions.keys

instance (s : Scheduler) (order : List (String × List String)) :
    Decidable (s.RangesOver order) :=
  inferInstanceAs (Decidable (_ ∧ _))

end Scheduler
end BrokerMcp.Resilience
