import BrokerMcp.Library.Assoc
import BrokerMcp.Resilience.Signal

namespace BrokerMcp.Observability.Health
open Resilience

inductive BrokerState where
  | reachable
  | unreachable
  | credentialInvalid
  | brokerError (httpStatus : Nat)
deriving DecidableEq

def BrokerState.text : BrokerState → String
  | .reachable => "reachable"
  | .unreachable => "unreachable"
  | .credentialInvalid => "credential_invalid"
  | .brokerError httpStatus => "broker_error_" ++ toString httpStatus

def classify (httpStatus : Nat) : BrokerState :=
  if httpStatus = 0 then .unreachable
  else if httpStatus = 401 ∨ httpStatus = 403 then .credentialInvalid
  else if 200 ≤ httpStatus ∧ httpStatus < 300 then .reachable
  else if httpStatus = 429 ∨ (500 ≤ httpStatus ∧ httpStatus < 600) then .brokerError httpStatus
  else .reachable

structure BrokerEntry where
  current : BrokerState
  seenReasons : List BrokerState
  lastResult : Int
deriving DecidableEq

abbrev Tracker := List (String × BrokerEntry)

def addReason (state : BrokerState) (seen : List BrokerState) : List BrokerState :=
  if state ∈ seen then seen else seen ++ [state]

def recordBrokerResult (broker : String) (httpStatus : Nat) (now : Int) (t : Tracker) : Tracker :=
  let state := classify httpStatus
  let seen := (t.lookup broker).elim [] BrokerEntry.seenReasons
  let seen := if state ≠ .reachable then addReason state seen else seen
  Assoc.put broker ⟨state, seen, now⟩ t

structure BrokerSnapshot where
  current : BrokerState
  seenReasons : List BrokerState
  lastResult : Int
deriving DecidableEq

def BrokerEntry.snapshot (e : BrokerEntry) : BrokerSnapshot :=
  ⟨e.current, e.seenReasons.mergeSort fun r r' => r.text ≤ r'.text, e.lastResult⟩

def snapshotForMetrics (t : Tracker) : List (String × BrokerSnapshot) :=
  t.map fun e => (e.1, e.2.snapshot)

inductive Series where
  | reachable (broker : String)
  | unreachableReason (broker reason : String)
  | lastResultTimestamp (broker : String)
deriving DecidableEq

def zeroTime : Int := -62135596800

def observe (broker : String) (snap : BrokerSnapshot) : List (Series × Int) :=
  (.reachable broker, if snap.current = .reachable then 1 else 0) ::
    (snap.seenReasons.map fun reason =>
      (.unreachableReason broker reason.text, if reason = snap.current then 1 else 0)) ++
    (if snap.lastResult ≠ zeroTime then [(.lastResultTimestamp broker, snap.lastResult)] else [])

def observeAll (snapshots : List (String × BrokerSnapshot)) : List (Series × Int) :=
  snapshots.flatMap fun e => observe e.1 e.2

def scrape (t : Tracker) : List (Series × Int) := observeAll (snapshotForMetrics t)

structure Event where
  broker : String
  call : DoCall
  now : Int

def Tracker.step (t : Tracker) (e : Event) : Tracker :=
  match e.call.signal with
  | some httpStatus => recordBrokerResult e.broker httpStatus e.now t
  | none => t

def Tracker.run (events : List Event) : Tracker := events.foldl Tracker.step []

end BrokerMcp.Observability.Health
