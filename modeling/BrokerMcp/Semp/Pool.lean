import BrokerMcp.Library.Assoc
import BrokerMcp.Library.Text
import BrokerMcp.Resilience.Sender

/-!
# The pool of broker clients

`BrokerPool` and `NewBrokerClient` (`internal/semp`). Lookups and calls of `Close` are tasks that
take their steps in any order.

* The read under `RLock` is one step, which a task that holds the write lock keeps out. What is done
  under the write lock takes a step for each object that is made or stopped.
* The semaphore, the rate limiter and the scheduler that one `NewBrokerClient` makes have the same
  number, under which `Admission` keeps them together with the `Do` calls of the senders that hold
  them.
* `owner` and `callers` are not in the source: for whom the objects were made, and who made each
  call.
-/

namespace BrokerMcp.Semp
open Resilience
open Text (quote)

structure SEMPConfig where
  maxConcurrentPerBroker : Int
  paced : Bool
  fairScheduling : Option Bool
  maxQueueWait : Int
  slowAdmissionAfter : Int

def SEMPConfig.fair (cfg : SEMPConfig) : Bool := cfg.fairScheduling.getD false

/-! ## Clients and what they share -/

inductive Protocol where
  | sempV1
  | sempV2
deriving DecidableEq

structure Shared where
  sem : Nat
  limiter : Nat
  scheduler : Option Nat
deriving DecidableEq

structure HTTPClient where
  protocol : Protocol
  shared : Shared
deriving DecidableEq

structure BrokerClient where
  brokerAlias : String
  sempV1Client : HTTPClient
  sempV2Client : HTTPClient
  shared : Shared
deriving DecidableEq

def BrokerClient.client (b : BrokerClient) : Protocol → HTTPClient
  | .sempV1 => b.sempV1Client
  | .sempV2 => b.sempV2Client

/-- Where the sender of a client admits: in its scheduler, or else at its semaphore. -/
def HTTPClient.gate (c : HTTPClient) : Nat := c.shared.scheduler.getD c.shared.sem

structure Caller where
  canonical : String
  protocol : Protocol

structure Admission where
  owner : String
  senders : Senders
  limiterStopped : Bool
  callers : List Caller

def Admission.new (cfg : SEMPConfig) (owner : String) : Admission where
  owner
  senders := .start cfg.fair cfg.paced cfg.maxConcurrentPerBroker cfg.maxConcurrentPerBroker
    cfg.maxQueueWait cfg.slowAdmissionAfter
  limiterStopped := false
  callers := []

def shared (cfg : SEMPConfig) (g : Nat) : Shared := ⟨g, g, if cfg.fair then some g else none⟩

def Admission.act (adm : Admission) (a : Activity) : Option Admission :=
  (adm.senders.step a).map fun senders => { adm with senders }

def Admission.stopLimiter (adm : Admission) : Option Admission :=
  some { adm with limiterStopped := true }

def Admission.exited (adm : Admission) : Bool :=
  match adm.senders.gate with
  | .unscheduled _ => true
  | .scheduled st => st.dispatcher = .exited

/-! ## The tasks -/

/-- How far the scheduler and then the limiter have been stopped. `Stop` of the scheduler waits
until the dispatcher has exited. -/
inductive Halt where
  | scheduler
  | done
  | limiter

/-- Where `NewBrokerClient` is: before it makes the shared objects, at one of the protocol clients,
or in `stopAll`. -/
inductive Build where
  | authenticating
  | sempV1 (shared : Shared)
  | sempV2 (shared : Shared) (sempV1Client : HTTPClient)
  | stopAll (shared : Shared) (halt : Halt) (err : String)

/-- Where `getOrCreate` is. What has failed names the objects that it had made. -/
inductive Lookup where
  | started
  | missed
  | checking
  | building (displayName : String) (build : Build)
  | failed (made : Option Nat) (err : String)
  | found (client : BrokerClient)

inductive Closing where
  | started
  | closing (halt : Halt) (clients : List BrokerClient)
  | closed

structure Query where
  brokerAlias : String
  protocol : Protocol

inductive Task where
  | lookup (query : Query) (phase : Lookup)
  | close (phase : Closing)

def Task.locked : Task → Bool
  | .lookup _ .checking | .lookup _ (.building _ _) | .close (.closing _ _) => true
  | _ => false

structure Pool where
  clients : List (String × BrokerClient)
  gates : List Admission
  tasks : List Task
  writer : Option Nat

def newBrokerPool : Pool := ⟨[], [], [], none⟩

inductive PoolMove where
  | read
  | lock
  | check
  | fails (err : String)
  | succeeds
  | halt
  | close (order : List BrokerClient)

inductive PoolAction where
  | get (query : Query)
  | close
  | advance (i : Nat) (move : PoolMove)
  | request (i : Nat) (key : CallerKey)
  | activity (g : Nat) (a : Activity)

namespace Pool

def set (p : Pool) (i : Nat) (task : Task) : Pool := { p with tasks := p.tasks.set i task }

def lock (p : Pool) (i : Nat) (task : Task) : Option Pool :=
  if p.writer.isSome then none else some { p.set i task with writer := some i }

def unlock (p : Pool) (i : Nat) (task : Task) : Pool := { p.set i task with writer := none }

def onGate (p : Pool) (g : Nat) (f : Admission → Option Admission) : Option Pool := do
  let adm ← p.gates[g]?
  let adm ← f adm
  return { p with gates := p.gates.set g adm }

/-! ## Stopping -/

def halt (p : Pool) (shared : Shared) : Halt → Option (Pool × Option Halt)
  | .scheduler =>
      match shared.scheduler with
      | none => some (p, some .limiter)
      | some k => (p.onGate k (Admission.act · (.schedule .stop))).map fun p => (p, some .done)
  | .done => do
      let k ← shared.scheduler
      let adm ← p.gates[k]?
      if Admission.exited adm then some (p, some .limiter) else none
  | .limiter => (p.onGate shared.limiter Admission.stopLimiter).map fun p => (p, none)

/-! ## The steps -/

section stepping

variable (cfg : SEMPConfig) (toLower : String → String) (source : String → Option String)

def errUnknownBroker (brokerAlias : String) : String := s!"unknown broker: {quote brokerAlias}"

def creating (what displayName err : String) : String :=
  s!"creating {what} for broker {quote displayName}: {err}"

def construct (p : Pool) (i : Nat) (query : Query) (displayName : String) :
    Build → PoolMove → Option Pool
  | .authenticating, .fails err => some (p.unlock i (.lookup query (.failed none err)))
  | .authenticating, .succeeds =>
      let made := shared cfg p.gates.length
      some { p.set i (.lookup query (.building displayName (.sempV1 made))) with
        gates := p.gates ++ [.new cfg (toLower query.brokerAlias)] }
  | .sempV1 shared, .fails err =>
      some (p.set i (.lookup query (.building displayName
        (.stopAll shared .scheduler (creating "SEMPv1 client" displayName err)))))
  | .sempV1 shared, .succeeds =>
      some (p.set i (.lookup query (.building displayName (.sempV2 shared ⟨.sempV1, shared⟩))))
  | .sempV2 shared _, .fails err =>
      some (p.set i (.lookup query (.building displayName
        (.stopAll shared .scheduler (creating "SEMPv2 client" displayName err)))))
  | .sempV2 shared sempV1Client, .succeeds =>
      let client : BrokerClient := ⟨displayName, sempV1Client, ⟨.sempV2, shared⟩, shared⟩
      some { p.unlock i (.lookup query (.found client)) with
        clients := Assoc.put (toLower query.brokerAlias) client p.clients }
  | .stopAll shared halt err, .halt => do
      let (p, next) ← p.halt shared halt
      match next with
      | some halt =>
          return p.set i (.lookup query (.building displayName (.stopAll shared halt err)))
      | none => return p.unlock i (.lookup query (.failed (some shared.limiter) err))
  | _, _ => none

def advanceLookup (p : Pool) (i : Nat) (query : Query) : Lookup → PoolMove → Option Pool
  | .started, .read =>
      if p.writer.isSome then none
      else
        match p.clients.lookup (toLower query.brokerAlias) with
        | some client => some (p.set i (.lookup query (.found client)))
        | none => some (p.set i (.lookup query .missed))
  | .missed, .lock => p.lock i (.lookup query .checking)
  | .checking, .check =>
      match p.clients.lookup (toLower query.brokerAlias) with
      | some client => some (p.unlock i (.lookup query (.found client)))
      | none =>
          match source query.brokerAlias with
          | none =>
              some (p.unlock i (.lookup query (.failed none (errUnknownBroker query.brokerAlias))))
          | some displayName =>
              some (p.set i (.lookup query (.building displayName .authenticating)))
  | .building displayName build, move => p.construct cfg toLower i query displayName build move
  | _, _ => none

def advanceClose (p : Pool) (i : Nat) : Closing → PoolMove → Option Pool
  | .started, .close order =>
      if order.Perm (p.clients.map Prod.snd) then p.lock i (.close (.closing .scheduler order))
      else none
  | .closing _ [], .halt => some (p.unlock i (.close .closed))
  | .closing halt (client :: rest), .halt => do
      let (p, next) ← p.halt client.shared halt
      match next with
      | some halt => return p.set i (.close (.closing halt (client :: rest)))
      | none => return p.set i (.close (.closing .scheduler rest))
  | _, _ => none

def free : Activity → Bool
  | .call _ | .schedule .stop => false
  | _ => true

def step (p : Pool) : PoolAction → Option Pool
  | .get query => some { p with tasks := p.tasks ++ [.lookup query .started] }
  | .close => some { p with tasks := p.tasks ++ [.close .started] }
  | .advance i move => do
      match ← p.tasks[i]? with
      | .lookup query phase => p.advanceLookup cfg toLower source i query phase move
      | .close phase => p.advanceClose i phase move
  | .request i key => do
      match ← p.tasks[i]? with
      | .lookup query (.found client) =>
          p.onGate (client.client query.protocol).gate fun adm =>
            (adm.senders.step (.call key)).map fun senders => { adm with
              senders
              callers := adm.callers ++ [⟨toLower query.brokerAlias, query.protocol⟩] }
      | _ => none
  | .activity g a => if free a then p.onGate g (Admission.act · a) else none

end stepping

def requests (p : Pool) (canonical : String) : Nat :=
  (p.gates.map fun adm => (adm.senders.calls.zip adm.callers).countP fun entry =>
    entry.1.between && decide (entry.2.canonical = canonical)).sum

end Pool
end BrokerMcp.Semp
