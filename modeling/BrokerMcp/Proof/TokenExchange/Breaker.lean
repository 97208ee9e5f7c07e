import BrokerMcp.Proof.TokenExchange.Throttle
import BrokerMcp.TokenExchange.Breaker

namespace BrokerMcp.Proof.TokenExchange
open BrokerMcp.TokenExchange
open Transition

inductive Verdict where
  | excluded
  | success
  | failure
deriving DecidableEq

def verdict (err : Option Err) : Verdict :=
  if isBreakerExcluded err then .excluded
  else if isBreakerSuccess err then .success
  else .failure

theorem verdict_classified (attempts : Nat) (err : Err) (classed : failureClassOf err ≠ .none) :
    verdict (classified attempts (some err)) = verdict (some err) := by
  cases err with
  | context err => exact absurd rfl classed
  | exchange err =>
      rw [classified, Option.map_some, classifyRetryOutcome]
      split_ifs with none rewraps
      · rfl
      · obtain ⟨sentinel, message, status, kind, after⟩ := err
        obtain rfl : sentinel = .errExchangeTransport := by simpa [Err.wraps] using rewraps
        cases kind <;> rfl
      · rfl

def Verdict.next (n : Nat) : Verdict → Nat
  | .excluded => n
  | .success => 0
  | .failure => n + 1

def failuresSinceSuccess (verdicts : List Verdict) : Nat :=
  (verdicts.reverse.takeWhile (· ≠ .success)).count .failure

theorem foldl_next (verdicts : List Verdict) :
    verdicts.foldl Verdict.next 0 = failuresSinceSuccess verdicts := by
  induction verdicts using List.reverseRecOn with
  | nil => rfl
  | append_singleton verdicts v ih =>
      rw [List.foldl_append, ih, failuresSinceSuccess, failuresSinceSuccess, List.reverse_append]
      cases v <;> simp [Verdict.next]

section Runs

variable {β ε : Type} {lib : CircuitBreaker β ε} {cfg : CircuitBreakerConfig}

variable (lib) in
def counts (p : Breaker β × BreakerAction ε) : Verdict :=
  match p.2 with
  | .pass _ => .excluded
  | .settle generation attempts result =>
      if generation ≠ lib.generation p.1.counts then .excluded
      else verdict (classified attempts result)

inductive Counted (lib : CircuitBreaker β ε) (cfg : CircuitBreakerConfig) (b b' : Breaker β) :
    Verdict → Prop where
  | excluded : b'.consecutiveFailures = b.consecutiveFailures →
      (lib.state b'.counts = .closed → lib.state b.counts = .closed) → Counted lib cfg b b' .excluded
  | success : b'.consecutiveFailures = 0 → Counted lib cfg b b' .success
  | failure : b'.consecutiveFailures = b.consecutiveFailures + 1 →
      (lib.state b'.counts = .closed → lib.state b.counts = .closed ∧
        ∃ counts, readyToTrip cfg b'.consecutiveFailures counts = false) →
      Counted lib cfg b b' .failure

theorem afterRequest_counted (lawful : lib.Lawful) (b : Breaker β) {generation : Nat}
    (current : generation = lib.generation b.counts) (err : Option Err) :
    Counted lib cfg b (b.afterRequest lib cfg generation err) (verdict err) := by
  rw [Breaker.afterRequest, if_neg (not_not.mpr current), verdict, countingIsBreakerSuccess]
  cases excluded : isBreakerExcluded err with
  | true => exact .excluded rfl (lawful.exclusion b.counts)
  | false =>
      cases ok : isBreakerSuccess err with
      | true => exact .success rfl
      | false => exact .failure rfl (lawful.failure _ b.counts)

theorem step_counted (lawful : lib.Lawful) {b b' : Breaker β} {a : BreakerAction ε}
    (taken : b.step lib cfg a = some b') : Counted lib cfg b b' (counts lib (b, a)) := by
  cases a with
  | pass e =>
      obtain rfl := Option.some.inj taken
      exact .excluded rfl (lawful.pass e b.counts)
  | settle generation attempts result =>
      obtain rfl := Option.some.inj taken
      dsimp only [counts]
      split_ifs with stale
      · rw [Breaker.afterRequest, if_pos stale]
        exact .excluded rfl id
      · exact afterRequest_counted lawful b (not_not.mp stale) _

theorem not_ready {n : UInt32} {seen : BreakerCounts} (positive : 0 < cfg.consecutiveFailureThreshold)
    (quiet : readyToTrip cfg n seen = false) : n < cfg.consecutiveFailureThreshold := by
  by_contra reached
  have ready : (cfg.consecutiveFailureThreshold > 0 &&
      n ≥ cfg.consecutiveFailureThreshold) = true := by
    simpa using And.intro positive (UInt32.not_lt.mp reached)
  rw [readyToTrip, if_pos ready] at quiet
  cases quiet

structure Tallied (lib : CircuitBreaker β ε) (cfg : CircuitBreakerConfig) (n : Nat)
    (b : Breaker β) : Prop where
  counter : b.consecutiveFailures.toNat = n % 2 ^ 32
  below : 0 < cfg.consecutiveFailureThreshold → lib.state b.counts = .closed →
    n < cfg.consecutiveFailureThreshold.toNat

theorem Tallied.step {n : Nat} {b b' : Breaker β} {v : Verdict} (tallied : Tallied lib cfg n b)
    (counted : Counted lib cfg b b' v) : Tallied lib cfg (v.next n) b' := by
  cases counted with
  | excluded same kept =>
      rw [Verdict.next]
      refine ⟨same ▸ tallied.counter, ?_⟩
      intro positive closed
      exact tallied.below positive (kept closed)
  | success zero =>
      refine ⟨by rw [zero]; rfl, ?_⟩
      intro positive _
      exact UInt32.lt_iff_toNat_lt.mp positive
  | failure more kept =>
      have counter : b'.consecutiveFailures.toNat = (n + 1) % 2 ^ 32 := by
        rw [more, UInt32.toNat_add, tallied.counter, Nat.mod_add_mod]
        rfl
      refine ⟨counter, ?_⟩
      intro positive closed
      obtain ⟨before, seen, quiet⟩ := kept closed
      -- Below the threshold the counter has not wrapped, so it has seen the failure in full.
      have early := tallied.below positive before
      have small := cfg.consecutiveFailureThreshold.toNat_lt
      have exact' : (n + 1) % 2 ^ 32 = n + 1 ∨ n + 1 = 2 ^ 32 := by omega
      have less := UInt32.lt_iff_toNat_lt.mp (not_ready positive quiet)
      rw [counter] at less
      rw [Verdict.next]
      omega

theorem run_tallied (lawful : lib.Lawful) {s t : Breaker β} {n : Nat}
    {history : List (Breaker β × BreakerAction ε)}
    (run : Run (Breaker.step lib cfg) s history t) (start : Tallied lib cfg n s) :
    Tallied lib cfg ((history.map (counts lib)).foldl Verdict.next n) t := by
  induction run generalizing n with
  | nil => exact start
  | cons taken _ ih => exact ih (start.step (step_counted lawful taken))

variable (lib cfg) in
structure Counting (history : List (Breaker β × BreakerAction ε)) (b : Breaker β) : Prop where
  counter : b.consecutiveFailures.toNat =
    failuresSinceSuccess (history.map (counts lib)) % 2 ^ 32
  excluded : ∀ generation err, isBreakerExcluded err = true →
    (b.afterRequest lib cfg generation err).consecutiveFailures = b.consecutiveFailures
  below : 0 < cfg.consecutiveFailureThreshold → lib.state b.counts = .closed →
    b.consecutiveFailures < cfg.consecutiveFailureThreshold ∧
      failuresSinceSuccess (history.map (counts lib)) < cfg.consecutiveFailureThreshold.toNat

theorem afterRequest_excluded (b : Breaker β) (generation : Nat) {err : Option Err}
    (excluded : isBreakerExcluded err = true) :
    (b.afterRequest lib cfg generation err).consecutiveFailures = b.consecutiveFailures := by
  rw [Breaker.afterRequest]
  split_ifs
  · rfl
  · rfl

end Runs

section Exchange

variable {β ε : Type} (lib : CircuitBreaker β ε) (cfg : CircuitBreakerConfig)

def within (successes failures : β → Nat) (n : UInt32) : Gobreaker β where
  successes := successes
  failures := failures
  onExcluded := lib.onExclusion
  onSuccess := lib.onSuccess
  onFailure := lib.onFailure (readyToTrip cfg (n + 1))

/-- An exchange that ends in the generation that admitted it is settled as the breaker settles it. -/
theorem exchange_settles (successes failures : β → Nat) (e : Exchanger) (format : Format) (idp : Idp)
    (b : Breaker β) (gatedUntil : Int) :
    b.step lib cfg (.settle (lib.generation b.counts) (doExchange e format idp).attempts
        (errorOf (doExchange e format idp).result)) =
      some (runExchangeOnce (within lib cfg successes failures b.consecutiveFailures) e
        format idp b gatedUntil).breaker := by
  have settled : ∀ err, b.afterRequest lib cfg (lib.generation b.counts) err =
      b.record (within lib cfg successes failures b.consecutiveFailures) err := by
    intro err
    unfold Breaker.afterRequest Breaker.record countingIsBreakerSuccess
    rw [if_neg (not_not_intro rfl)]
    cases isBreakerExcluded err with
    | true => rfl
    | false => cases isBreakerSuccess err <;> rfl
  rw [Breaker.step, settled]
  cases ended : (doExchange e format idp).result with
  | ok token => simp only [runExchangeOnce, ended, errorOf, classified, Option.map_none]
  | error err => simp only [runExchangeOnce, ended, errorOf, classified, Option.map_some]

end Exchange

/-- The rewrap does not change what an outcome with a failure class counts as, and in every run the
counter is the number of failures since the last success, modulo 2 to the 32. -/
theorem breaker_counts_failures {β ε : Type} (lib : CircuitBreaker β ε) (cfg : CircuitBreakerConfig)
    (lawful : lib.Lawful) :
    (∀ attempts err, failureClassOf err ≠ .none →
      verdict (classified attempts (some err)) = verdict (some err)) ∧
    ∀ start history b, Run (Breaker.step lib cfg) ⟨start, 0⟩ history b →
      Counting lib cfg history b := by
  refine ⟨verdict_classified, ?_⟩
  intro start history b run
  have fresh : Tallied lib cfg 0 ⟨start, 0⟩ := by
    refine ⟨rfl, ?_⟩
    intro positive _
    exact UInt32.lt_iff_toNat_lt.mp positive
  have tallied := run_tallied lawful run fresh
  rw [foldl_next] at tallied
  refine ⟨tallied.counter, fun generation _ => afterRequest_excluded b generation, ?_⟩
  intro positive closed
  have below := tallied.below positive closed
  refine ⟨?_, below⟩
  rw [UInt32.lt_iff_toNat_lt, tallied.counter]
  exact lt_of_le_of_lt (Nat.mod_le _ _) below

structure OneProbe where
  state : BreakerState
  generation : Nat
  counts : BreakerCounts

def OneProbe.enter (b : OneProbe) (state : BreakerState) : OneProbe :=
  ⟨state, b.generation + 1, ⟨0, 0⟩⟩

def OneProbe.fail (trip : BreakerCounts → Bool) (b : OneProbe) : OneProbe :=
  match b.state with
  | .closed =>
      let counts := { b.counts with totalFailures := b.counts.totalFailures + 1 }
      if trip counts then b.enter .open else { b with counts := counts }
  | .halfOpen => b.enter .open
  | .open => b

def oneProbe : CircuitBreaker OneProbe Unit where
  state := OneProbe.state
  generation := OneProbe.generation
  pass := fun _ b => if b.state = .open then b.enter .halfOpen else b
  onExclusion := id
  onSuccess := fun b => if b.state = .halfOpen then b.enter .closed else b
  onFailure := OneProbe.fail

theorem oneProbe_lawful : oneProbe.Lawful where
  pass := by
    intro _ b closed
    dsimp only [oneProbe] at closed ⊢
    split_ifs at closed with timeout
    · cases closed
    · exact closed
  exclusion := fun _ => id
  failure := by
    intro trip b closed
    dsimp only [oneProbe, OneProbe.fail] at closed ⊢
    split at closed
    · rename_i before
      split_ifs at closed with ready
      · cases closed
      · exact ⟨before, _, Bool.not_eq_true _ ▸ ready⟩
    · cases closed
    · rename_i before
      rw [before] at closed
      cases closed

def unreachable : Err :=
  .exchange
    { sentinel := .errExchangeTransport
      message := "token exchange transport failure: IdP request failed: connection refused"
      failureClass := .network }

def afterTwo : CircuitBreakerConfig := ⟨2, 10, 50⟩

def freshBreaker : Breaker OneProbe := ⟨⟨.closed, 0, ⟨0, 0⟩⟩, 0⟩

def twoFailures : List (BreakerAction Unit) :=
  [.settle 0 3 (some unreachable), .settle 0 1 (some (.context .canceled)),
    .settle 0 3 (some unreachable)]

theorem breaker_counts_failures_two : ∃ history b,
    Run (Breaker.step oneProbe afterTwo) freshBreaker history b ∧
    oneProbe.state b.counts = .open ∧ Counting oneProbe afterTwo history b := by
  obtain ⟨b, done, tripped⟩ : ∃ b,
      exec (Breaker.step oneProbe afterTwo) freshBreaker twoFailures = some b ∧
      b.counts.state = .open := ⟨_, rfl, rfl⟩
  have run := run_of_exec done
  exact ⟨_, b, run, tripped, (breaker_counts_failures oneProbe afterTwo oneProbe_lawful).2 _ _ b run⟩

def afterOne : CircuitBreakerConfig := ⟨1, 10, 50⟩

def failsProbe (b : Breaker OneProbe) : List (Breaker OneProbe × BreakerAction Unit) :=
  [(b, .settle b.counts.generation 1 (some unreachable)),
    (⟨b.counts.enter .open, b.consecutiveFailures + 1⟩, .pass ())]

theorem failsProbe_run {b : Breaker OneProbe} (probing : b.counts.state = .halfOpen) :
    Run (Breaker.step oneProbe afterOne) b (failsProbe b)
      ⟨(b.counts.enter .open).enter .halfOpen, b.consecutiveFailures + 1⟩ := by
  refine .cons ?_ (.single rfl)
  have failed : isBreakerExcluded (classified 1 (some unreachable)) = false := rfl
  have counted : ∀ n, countingIsBreakerSuccess (classified 1 (some unreachable)) n =
      (false, n + 1) := fun _ => rfl
  simp [Breaker.step, Breaker.afterRequest, oneProbe, failed, counted, OneProbe.fail, probing]

theorem failsProbe_counts (b : Breaker OneProbe) :
    (failsProbe b).map (counts oneProbe) = [.failure, .excluded] := by
  have failure : verdict (classified 1 (some unreachable)) = .failure := rfl
  simp [failsProbe, counts, oneProbe, failure]

theorem probes_fail (n : Nat) {b : Breaker OneProbe} (probing : b.counts.state = .halfOpen) :
    ∃ history b', Run (Breaker.step oneProbe afterOne) b history b' ∧
      ∀ k, (history.map (counts oneProbe)).foldl Verdict.next k = k + n := by
  induction n generalizing b with
  | zero => exact ⟨[], b, .nil, fun _ => rfl⟩
  | succ n ih =>
      have first := failsProbe_run probing
      obtain ⟨history, b', rest, counted⟩ := ih
        (b := ⟨(b.counts.enter .open).enter .halfOpen, b.consecutiveFailures + 1⟩) rfl
      refine ⟨failsProbe b ++ history, b', first.append rest, ?_⟩
      intro k
      rw [List.map_append, List.foldl_append, failsProbe_counts, counted]
      simp only [List.foldl_cons, List.foldl_nil, Verdict.next]
      omega

def firstFailure : List (Breaker OneProbe × BreakerAction Unit) :=
  [(freshBreaker, .settle 0 1 (some unreachable)), (⟨⟨.open, 1, ⟨0, 0⟩⟩, 1⟩, .pass ())]

/-- Two to the 32 failures in a row bring the counter back to zero. -/
theorem counter_wraps : ∃ history b,
    Run (Breaker.step oneProbe afterOne) freshBreaker history b ∧
    failuresSinceSuccess (history.map (counts oneProbe)) = 2 ^ 32 ∧ b.consecutiveFailures = 0 := by
  have opens : Run (Breaker.step oneProbe afterOne) freshBreaker firstFailure
      ⟨⟨.halfOpen, 2, ⟨0, 0⟩⟩, 1⟩ := .cons rfl (.single rfl)
  obtain ⟨history, b, rest, counted⟩ := probes_fail (2 ^ 32 - 1)
    (b := ⟨⟨.halfOpen, 2, ⟨0, 0⟩⟩, 1⟩) rfl
  have run := opens.append rest
  have total : failuresSinceSuccess ((firstFailure ++ history).map (counts oneProbe)) = 2 ^ 32 := by
    rw [← foldl_next, List.map_append, List.foldl_append]
    exact counted 1
  refine ⟨_, b, run, total, ?_⟩
  have fresh : Tallied oneProbe afterOne 0 freshBreaker := ⟨rfl, fun _ _ => by decide⟩
  have counter := (run_tallied oneProbe_lawful run fresh).counter
  rw [foldl_next, total, Nat.mod_self] at counter
  exact UInt32.toNat_inj.mp counter

end BrokerMcp.Proof.TokenExchange
