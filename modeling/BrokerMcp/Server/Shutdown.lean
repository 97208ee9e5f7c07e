import BrokerMcp.Library.Trace
import BrokerMcp.Server.Readiness

/-!
# Shutting down

The end of `main` with `drainAndShutdown`, `gracefulShutdown`, `forceClose`, `runShutdownHooks` and
`RunAll` of `hooks.go`, beside the server they stop. A step belongs to one goroutine or to the outside:
requests, signals and time.

* `http.Server` accepts until `Shutdown` or `Close` is called. `Shutdown` returns without an error when
  no request is in flight and with one when its context is over; `Close` drops what is in flight.
* A timer can be noticed late, and a `select` takes any case that is ready.
* `receive` takes the main goroutine from the signal past its log line and `SetShuttingDown` to the next
  `select`.
-/

namespace BrokerMcp.Server

inductive Signal where
  | interrupt
  | terminate
deriving DecidableEq

def defaultShutdownTimeoutSeconds : Nat := 30

def defaultShutdownHookTimeoutSeconds : Nat := 3

def defaultShutdownDrainDelayS : Nat := 10

/-- `signal.Notify` does not wait for room in the channel. -/
def signalBuffer : Nat := 2

def drainDelayForSignal (sig : Signal) (configured : Nat) : Nat :=
  match sig with
  | .interrupt => 0
  | .terminate => configured

inductive Request where
  | inFlight
  | answered
  | dropped
deriving DecidableEq

/-- A hook that panics is recovered by `safego.Go`. -/
inductive Hook where
  | running
  | finished
  | failed
  | panicked
deriving DecidableEq

inductive ShutdownCall where
  | spawned
  | polling
  | returned (timedOut : Bool)
deriving DecidableEq

/-- Where the main goroutine waits, and the deadline it has set. -/
inductive Phase where
  | starting
  | serving
  | draining (deadline : Nat)
  | waiting (deadline : Nat) (call : ShutdownCall)
  | flushing (deadline : Nat)
  | stopped
deriving DecidableEq

structure Config where
  shutdownDrainDelayS : Nat
  hooks : List String

structure Process where
  now : Nat := 0
  phase : Phase := .starting
  forceSig : Bool := false
  done : List Signal := []
  serverErr : Bool := false
  accepting : Bool := true
  requests : List Request := []
  hooks : List Hook := []
  readiness : ReadinessState := {}
  evaluations : List Evaluation := []

inductive Action where
  | tick
  | notify (sig : Signal)
  | accept
  | answer (i : Nat)
  | serveFails
  | registerListener (name : String)
  | setInitialized
  | receive
  | receiveErr
  | drained
  | force
  | callShutdown
  | shutdownDone
  | shutdownTimeout
  | settle
  | hookEnds (i : Nat) (how : Hook)
  | flushed
  | readyz
  | evaluate (j : Nat) (err : Option String)
deriving DecidableEq

def Request.drop : Request → Request
  | .inFlight => .dropped
  | request => request

def Process.close (s : Process) : Process :=
  { s with accepting := false, requests := s.requests.map Request.drop }

/-- From the start of `gracefulShutdown` to its `select`. -/
def Process.gracefulShutdown (s : Process) : Process :=
  { s with phase := .waiting (s.now + defaultShutdownTimeoutSeconds) .spawned }

/-- From the start of `drainAndShutdown` to the `select` that is reached first. -/
def Process.drainAndShutdown (s : Process) (drainDelay : Nat) : Process :=
  let s := { s with readiness := { s.readiness with shuttingDown := true }, forceSig := true }
  if drainDelay > 0 then { s with phase := .draining (s.now + drainDelay) } else s.gracefulShutdown

def Process.runShutdownHooks (cfg : Config) (s : Process) : Process :=
  { s with
    phase := .flushing (s.now + defaultShutdownHookTimeoutSeconds)
    hooks := cfg.hooks.map fun _ => .running }

/-- A second signal. A flush is abandoned, and anything before it is closed by `forceClose`. -/
def Process.force (s : Process) (rest : List Signal) : Option Process :=
  match s.phase with
  | .draining _ => some { s.close with phase := .stopped, done := rest }
  | .waiting _ _ => some { s.close with phase := .stopped, done := rest }
  | .flushing _ => some { s with phase := .stopped, done := rest }
  | _ => none

def Process.act (cfg : Config) (s : Process) : Action → Option Process
  | .tick => some { s with now := s.now + 1 }
  | .notify sig =>
      some (if s.done.length < signalBuffer then { s with done := s.done ++ [sig] } else s)
  | .accept => if s.accepting then some { s with requests := s.requests ++ [.inFlight] } else none
  | .answer i =>
      if s.requests[i]? = some .inFlight then
        some { s with requests := s.requests.set i .answered }
      else none
  | .serveFails => if s.accepting then some { s with accepting := false, serverErr := true } else none
  | .registerListener name =>
      if s.phase = .starting then
        some { s with
          readiness := { s.readiness with listeners := s.readiness.listeners ++ [name] } }
      else none
  | .setInitialized =>
      if s.phase = .starting then
        some { s with readiness := { s.readiness with initialized := true }, phase := .serving }
      else none
  | .receive =>
      match s.phase, s.done with
      | .serving, sig :: rest =>
          some ({ s with done := rest }.drainAndShutdown
            (drainDelayForSignal sig cfg.shutdownDrainDelayS))
      | _, _ => none
  | .receiveErr =>
      if s.phase = .serving ∧ s.serverErr then some { s with serverErr := false }.gracefulShutdown
      else none
  | .drained =>
      match s.phase with
      | .draining deadline => if deadline ≤ s.now then some s.gracefulShutdown else none
      | _ => none
  | .force =>
      match s.done with
      | [] => none
      | _ :: rest => if s.forceSig then s.force rest else none
  | .callShutdown =>
      match s.phase with
      | .waiting deadline .spawned =>
          some { s with phase := .waiting deadline .polling, accepting := false }
      | _ => none
  | .shutdownDone =>
      match s.phase with
      | .waiting deadline .polling =>
          if Request.inFlight ∈ s.requests then none
          else some { s with phase := .waiting deadline (.returned false) }
      | _ => none
  | .shutdownTimeout =>
      match s.phase with
      | .waiting deadline .polling =>
          if deadline ≤ s.now then some { s with phase := .waiting deadline (.returned true) }
          else none
      | _ => none
  | .settle =>
      match s.phase with
      | .waiting _ (.returned timedOut) =>
          some ((if timedOut then s.close else s).runShutdownHooks cfg)
      | _ => none
  | .hookEnds i how =>
      if s.hooks[i]? = some .running ∧ how ≠ .running then
        some { s with hooks := s.hooks.set i how }
      else none
  | .flushed =>
      match s.phase with
      | .flushing deadline =>
          if Hook.running ∉ s.hooks ∨ deadline ≤ s.now then some { s with phase := .stopped }
          else none
      | _ => none
  | .readyz =>
      if s.accepting then some { s with evaluations := s.evaluations ++ [.called] } else none
  | .evaluate j err => do
      let evaluation ← s.evaluations[j]?
      let next ← evaluation.step s.readiness err
      return { s with evaluations := s.evaluations.set j next }

def Process.step (cfg : Config) (s : Process) (a : Action) : Option Process :=
  if s.phase = .stopped then none else s.act cfg a

end BrokerMcp.Server
