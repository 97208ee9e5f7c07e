import BrokerMcp.Proof.Retry.Bounds

namespace BrokerMcp.Proof.Retry
open Resilience

/-- A `POST` or `PATCH` not marked retry-safe, or any request under `WithRetryUnsafe`. -/
def isWrite (req : Request) : Bool := guarded (.new req) || req.retryUnsafe

structure SameRequest (state state' : RetryState) : Prop where
  method : state'.method = state.method
  retrySafe : state'.retrySafe = state.retrySafe
  retryUnsafe : state'.retryUnsafe = state.retryUnsafe

theorem SameRequest.trans {s t u : RetryState} (first : SameRequest s t) (second : SameRequest t u) :
    SameRequest s u :=
  ⟨second.method.trans first.method, second.retrySafe.trans first.retrySafe,
    second.retryUnsafe.trans first.retryUnsafe⟩

theorem SameRequest.guarded {s t : RetryState} (same : SameRequest s t) :
    guarded t = guarded s := by
  simp only [Retry.guarded, same.method, same.retrySafe]

theorem checkStatus_same (state : RetryState) (result : AuthFailureResult) (code : Nat) :
    SameRequest state (checkStatus state result code).state ∧
      (checkStatus state result code).state.requestWritten = state.requestWritten := by
  unfold checkStatus
  dsimp only
  split_ifs <;> exact ⟨⟨rfl, rfl, rfl⟩, rfl⟩

theorem checkRetry_same (state : RetryState) (a : Attempt) :
    SameRequest state (checkRetry state a).state ∧
      (checkRetry state a).state.requestWritten = state.requestWritten := by
  cases guard : guarded state with
  | true =>
      rw [(checkRetry_guarded guard).2]
      exact ⟨⟨rfl, rfl, rfl⟩, rfl⟩
  | false =>
      cases live : a.ctxErr with
      | some err =>
          have stays : (checkRetry state a).state = state := by simp [checkRetry, live]
          rw [stays]
          exact ⟨⟨rfl, rfl, rfl⟩, rfl⟩
      | none =>
          rw [checkRetry_unguarded live guard]
          cases a.outcome with
          | answered reply => exact checkStatus_same state a.authResult reply.statusCode
          | failed resp err =>
              dsimp only
              split_ifs <;> exact ⟨⟨rfl, rfl, rfl⟩, rfl⟩

section Verdict

variable {state : RetryState} {a : Attempt}
  (write : (guarded state || state.retryUnsafe) = true) (other : unauthorized a = false)
include write other

theorem write_declined : (checkRetry state a).retry = false := by
  rw [Bool.eq_false_iff]
  intro asked
  obtain ⟨-, guard, asks⟩ := checkRetry_asks asked
  rw [guard, Bool.false_or] at write
  obtain ⟨refused, -⟩ := asks_unauthorized asks write
  cases refused.symm.trans other

theorem write_verdict : (checkRetry state a).err =
    match a.ctxErr with
    | some err => some [.foreign (.context err)]
    | none =>
        if a.outcome.status?.any fun code => state.retryUnsafe && retryableStatus code then
          some [.errNonIdempotentNotRetried]
        else none := by
  cases live : a.ctxErr with
  | some err => simp [checkRetry, live]
  | none =>
      cases guard : guarded state with
      | true =>
          unfold guarded at guard
          simp only [checkRetry, live, guard, ↓reduceIte]
          cases outcome : a.outcome with
          | failed resp err => simp [Outcome.status?]
          | answered reply =>
              cases gated : state.retryUnsafe && retryableStatus reply.statusCode with
              | true => simp [Outcome.status?, gated]
              | false => simp [Outcome.status?, gated]
      | false =>
          rw [guard, Bool.false_or] at write
          rw [checkRetry_unguarded live guard]
          cases outcome : a.outcome with
          | failed resp err => simp [Outcome.status?, write]
          | answered reply =>
              have code : reply.statusCode ≠ 401 := by
                simpa [unauthorized, outcome, Outcome.status?] using other
              have marked : (recovered state).retryUnsafe = true := by
                obtain ⟨b, frame⟩ := recovered_frame state
                rw [frame, write]
              dsimp only
              rw [checkStatus_other state a.authResult code]
              simp only [Outcome.status?, Option.any_some, write, marked, Bool.true_and]
              cases retryable : retryableStatus reply.statusCode with
              | true => rfl
              | false =>
                  simp only [retryableStatus, Bool.or_eq_false_iff, decide_eq_false_iff_not] at retryable
                  obtain ⟨calm, sane⟩ := retryable
                  have free : ¬ (reply.statusCode = 429 ∨ reply.statusCode = 503) := by omega
                  simp [free, sane]

end Verdict

structure Ends (req : RetryState) (sent : Sent) (t : Try) : Prop where
  last : sent.tries.getLast? = some t
  same : SameRequest req t.before
  written : t.attempt.wroteHeaders = true → t.before.requestWritten = true
  verdict : t.verdict = checkRetry t.before t.attempt
  result : t.verdict.retry = false → sent.state = t.verdict.state ∧
    ∃ n, sent.result = finish t.attempt false none t.verdict.err n

theorem Looped.ends {attempts : Nat → Attempt} {remain i : Nat} {state : RetryState}
    {reauthed : Bool} {sent : Sent} (looped : Looped attempts remain i state reauthed sent) :
    ∃ t, Ends state sent t := by
  induction looped with
  | @declined remain i state reauthed t here refused =>
      subst here
      refine ⟨_, rfl, ⟨rfl, rfl, rfl⟩, ?_, rfl, fun _ => ⟨rfl, _, rfl⟩⟩
      intro wrote
      simpa [attempted, Retry.written] using .inr wrote
  | @stopped remain i state reauthed t sent here asked _ alone =>
      subst here
      refine ⟨_, by rw [alone]; rfl, ⟨rfl, rfl, rfl⟩, ?_, rfl, fun refused => ?_⟩
      · intro wrote
        simpa [attempted, Retry.written] using .inr wrote
      · cases asked.symm.trans refused
  | @again remain i state reauthed t rest here _ _ _ loop ih =>
      obtain ⟨u, last, same, written, verdict, result⟩ := ih
      refine ⟨u, ?_, ?_, written, verdict, result⟩
      · rw [List.getLast?_cons, last]
        rfl
      · have kept : SameRequest state t.verdict.state := by
          subst here
          have kept := (checkRetry_same (Retry.written state (attempts i)) (attempts i)).1
          exact ⟨kept.method, kept.retrySafe, kept.retryUnsafe⟩
        rw [prepareRetry_frame] at same
        exact kept.trans ⟨same.method, same.retrySafe, same.retryUnsafe⟩

def reauthenticates (retryMax : Nat) (req : Request) (a : Attempt) : Bool :=
  !guarded (.new req) && decide (0 < retryMax) && a.ctxErr.isNone && unauthorized a &&
    a.authResult.retry && a.backoff.isNone && (!a.authResult.reAuth || a.addAuth.isNone)

def lastAttempt (retryMax : Nat) (req : Request) (attempts : Nat → Attempt) : Attempt :=
  if reauthenticates retryMax req (attempts 0) then attempts 1 else attempts 0

theorem checkRetry_unauthorized {state : RetryState} {a : Attempt} (live : a.ctxErr = none)
    (guard : guarded state = false) (refused : unauthorized a = true)
    (first : state.auth401Retried = false) :
    (checkRetry state a).retry = a.authResult.retry := by
  rw [checkRetry_unguarded live guard]
  cases outcome : a.outcome with
  | failed resp err => simp [unauthorized, outcome, Outcome.status?] at refused
  | answered reply =>
      have code : reply.statusCode = 401 := by
        simpa [unauthorized, outcome, Outcome.status?] using refused
      simp only [checkStatus, code, first, ↓reduceIte, Bool.not_false]
      cases a.authResult.retry <;> rfl

theorem goes_on_iff {retryMax : Nat} {req : Request} {a : Attempt} {t : Try}
    (write : isWrite req = true) (here : t = attempted (.new req) a false) :
    reauthenticates retryMax req a = true ↔ t.verdict.retry = true ∧ 0 < retryMax ∧
      t.attempt.backoff = none ∧
      (prepareRetry t.verdict.state t.attempt.addAuth).2.2.isSome = false := by
  have attempt : t.attempt = a := by rw [here]; rfl
  simp only [reauthenticates, Bool.and_eq_true, Bool.or_eq_true, Option.isNone_iff_eq_none,
    decide_eq_true_eq, Bool.not_eq_true', ← attempt]
  have verdict (live : t.attempt.ctxErr = none) (guard : guarded (.new req) = false)
      (refused : unauthorized t.attempt = true) :
      t.verdict.retry = t.attempt.authResult.retry := by
    subst here
    exact checkRetry_unauthorized live guard refused rfl
  have prepares (asks : Asks (written (.new req) t.attempt) t.attempt t.verdict.state) :
      (prepareRetry t.verdict.state t.attempt.addAuth).2.2.isSome = false ↔
        ¬ ((unauthorized t.attempt = true ∧ (written (.new req) t.attempt).auth401Retried = false ∧
          t.attempt.authResult.reAuth = true) ∧ t.attempt.addAuth.isSome = true) := by
    rw [← Bool.not_eq_true, prepareRetry_fails_iff, asks_needsReauth asks rfl]
  constructor
  · rintro ⟨⟨⟨⟨⟨⟨guard, room⟩, live⟩, refused⟩, able⟩, waited⟩, ready⟩
    have asked := (verdict live guard refused).trans able
    refine ⟨asked, room, waited, ?_⟩
    rw [prepares (attempted_asks here asked).2.2]
    rintro ⟨⟨-, -, reAuth⟩, failed⟩
    rcases ready with calm | done
    · cases calm.symm.trans reAuth
    · simp [done] at failed
  · rintro ⟨asked, room, waited, prepared⟩
    obtain ⟨live, guard, asks⟩ := attempted_asks here asked
    have marked : (written (.new req) t.attempt).retryUnsafe = true := by
      unfold isWrite at write
      rwa [guard, Bool.false_or] at write
    obtain ⟨refused, first, -⟩ := asks_unauthorized asks marked
    have able := (verdict live guard refused).symm.trans asked
    rw [prepares asks] at prepared
    refine ⟨⟨⟨⟨⟨⟨guard, room⟩, live⟩, refused⟩, able⟩, waited⟩, ?_⟩
    cases reAuth : t.attempt.authResult.reAuth with
    | false => exact .inl rfl
    | true =>
        refine .inr (Option.isNone_iff_eq_none.mp ?_)
        cases failed : t.attempt.addAuth with
        | none => rfl
        | some err => exact absurd ⟨⟨refused, first, reAuth⟩, by simp [failed]⟩ prepared

theorem Looped.last_attempt {attempts : Nat → Attempt} {retryMax : Nat} {req : Request} {sent : Sent}
    (write : isWrite req = true) (looped : Looped attempts retryMax 0 (.new req) false sent)
    {t : Try} (last : sent.tries.getLast? = some t) :
    t.attempt = lastAttempt retryMax req attempts := by
  have sequence := looped.sequence
  unfold lastAttempt
  cases looped with
  | @declined _ _ _ _ u here declined =>
      obtain rfl := Option.some.inj last
      have stays : ¬ reauthenticates retryMax req (attempts 0) = true := by
        rw [goes_on_iff write here]
        rintro ⟨asked, -⟩
        cases declined.symm.trans asked
      rw [if_neg stays]
      exact sequence 0 rfl
  | @stopped _ _ _ _ u _ here asked stuck alone =>
      have stays : ¬ reauthenticates retryMax req (attempts 0) = true := by
        rw [goes_on_iff write here]
        rintro ⟨-, room, waited, prepared⟩
        rcases stuck with none | ended | failed
        · omega
        · simp [waited] at ended
        · cases prepared.symm.trans failed
      rw [alone] at last
      obtain rfl := Option.some.inj last
      rw [if_neg stays]
      exact sequence 0 (by rw [alone]; rfl)
  | @again remain _ _ _ u rest here asked waited prepared loop =>
      have moves : reauthenticates (remain + 1) req (attempts 0) = true := by
        rw [goes_on_iff write here]
        exact ⟨asked, Nat.succ_pos _, waited, by rw [prepared]; rfl⟩
      obtain ⟨-, guard, asks⟩ := attempted_asks here asked
      have marked : RetryState.retryUnsafe (.new req) = true := by
        unfold isWrite at write
        rwa [guard, Bool.false_or] at write
      rw [if_pos moves]
      have two := Looped.marked_twice (.again here asked waited prepared loop) marked
      rcases two with one | ⟨v, v', both, -⟩
      · simp [loop.nonempty] at one
      · simp only at both
        rw [both] at last
        obtain rfl := Option.some.inj last
        exact sequence 1 (by simp only [both]; rfl)

structure Accepted (req : Request) (a : Attempt) (reply : Reply) : Prop where
  live : a.ctxErr = none
  answered : a.outcome = .answered reply
  passed : (req.retryUnsafe && retryableStatus reply.statusCode) = false

def quiet : Link → Bool
  | .foreign _ | .text _ | .errNonIdempotentNotRetried | .errResponseTooLarge => true
  | _ => false

structure Unknown (err : Chain) : Prop where
  marked : ∃ e rest, err = .retriesExhausted e :: rest ∧ e.nonIdempotent = true
  quiet : ∀ link ∈ err.tail, quiet link = true

theorem write_passes_iff {state : RetryState} {req : Request} {a : Attempt} {reply : Reply}
    (write : (guarded state || state.retryUnsafe) = true) (other : unauthorized a = false)
    (same : state.retryUnsafe = req.retryUnsafe) (answered : a.outcome = .answered reply) :
    (checkRetry state a).err = none ↔ Accepted req a reply := by
  rw [write_verdict write other]
  cases live : a.ctxErr with
  | some cause =>
      constructor
      · nofun
      · intro accepted
        cases accepted.live.symm.trans live
  | none =>
      simp only [answered, Outcome.status?, Option.any_some, same]
      constructor
      · intro clean
        split_ifs at clean with gated
        exact ⟨live, answered, Bool.eq_false_iff.mpr gated⟩
      · intro accepted
        simp [accepted.passed]

theorem write_verdict_quiet {state : RetryState} {a : Attempt} {err : Chain}
    (write : (guarded state || state.retryUnsafe) = true) (other : unauthorized a = false)
    (failed : (checkRetry state a).err = some err) : ∀ link ∈ err, quiet link = true := by
  rw [write_verdict write other] at failed
  cases live : a.ctxErr with
  | some reason =>
      simp only [live, Option.some.injEq] at failed
      subst failed
      simp [quiet]
  | none =>
      simp only [live] at failed
      split_ifs at failed
      obtain rfl := Option.some.inj failed
      simp [quiet]

theorem errorHandler_some (resp : Option Reply) (err : Chain) (n : Nat) :
    ∃ e, errorHandler resp (some err) n = .retriesExhausted e :: err := by
  cases resp with
  | none => exact ⟨_, rfl⟩
  | some reply => exact ⟨_, rfl⟩

theorem finish_declined (a : Attempt) (err : Option Chain) (n : Nat) :
    (∃ reply, a.outcome = .answered reply ∧ err = none ∧ finish a false none err n = .ok reply) ∨
    ((∀ reply, a.outcome = .answered reply → err ≠ none) ∧ ∃ e rest,
      finish a false none err n = .error (.retriesExhausted e :: rest) ∧
        (err = some rest ∨ ∃ causes : List Foreign, rest = causes.map .foreign)) := by
  unfold finish
  cases a.outcome with
  | answered reply =>
      cases err with
      | none => exact .inl ⟨reply, rfl, rfl, rfl⟩
      | some err =>
          obtain ⟨e, shape⟩ := errorHandler_some (some reply) err n
          exact .inr ⟨fun _ _ => nofun, e, err, congrArg Except.error shape, .inl rfl⟩
  | failed resp cause =>
      refine .inr ⟨fun _ => nofun, ?_⟩
      cases err with
      | none =>
          obtain ⟨e, shape⟩ := errorHandler_some (resp.map Reply.closed) (cause.map .foreign) n
          exact ⟨e, _, congrArg Except.error shape, .inr ⟨cause, rfl⟩⟩
      | some err =>
          obtain ⟨e, shape⟩ := errorHandler_some (resp.map Reply.closed) err n
          exact ⟨e, err, congrArg Except.error shape, .inl rfl⟩

theorem doRequest_result {retryMax : Nat} {req : Request} {world : World}
    (reached : World.reached world = true) {sent : Sent}
    (loop : sent = retryLoop world.attempts retryMax 0 (.new req) false) :
    (doRequest retryMax req world).result =
      match sent.result with
      | .ok reply => .ok reply
      | .error err =>
          if req.retryUnsafe || ((sent.state.method = methodPost || sent.state.method = methodPatch) &&
            !sent.state.retrySafe && sent.state.requestWritten) then
            .error (err.amend fun e => { e with nonIdempotent := true })
          else .error err := by
  unfold World.reached at reached
  rw [Bool.and_eq_true, Option.isNone_iff_eq_none, Option.isNone_iff_eq_none] at reached
  unfold doRequest
  simp only [reached.1, reached.2, ← loop]
  cases result : sent.result with
  | ok reply => exact result
  | error err =>
      dsimp only
      split_ifs
      · rfl
      · exact result

theorem write_result {retryMax : Nat} {req : Request} {world : World} (write : isWrite req = true)
    (reached : World.reached world = true) {t : Try}
    (last : (doRequest retryMax req world).tries.getLast? = some t)
    (wrote : t.attempt.wroteHeaders = true) (other : unauthorized t.attempt = false) :
    (∃ reply, Accepted req t.attempt reply ∧ (doRequest retryMax req world).result = .ok reply) ∨
    ((∀ reply, ¬ Accepted req t.attempt reply) ∧
      ∃ err, (doRequest retryMax req world).result = .error err ∧ Unknown err) := by
  obtain ⟨sent, loop⟩ : ∃ sent, sent = retryLoop world.attempts retryMax 0 (.new req) false :=
    ⟨_, rfl⟩
  have looped := retryLoop_looped world.attempts retryMax 0 (.new req) false
  rw [← loop] at looped
  obtain ⟨u, here, same, written, verdict, result⟩ := looped.ends
  rw [doRequest_tries, if_pos reached, ← loop, here] at last
  obtain rfl := Option.some.inj last
  have stillWrite : (guarded u.before || u.before.retryUnsafe) = true := by
    rw [same.guarded, same.retryUnsafe]
    exact write
  have declined : u.verdict.retry = false := verdict ▸ write_declined stillWrite other
  obtain ⟨state, n, ended⟩ := result declined
  rw [doRequest_result reached loop, ended]
  have kept := checkRetry_same u.before u.attempt
  rw [← verdict, ← state] at kept
  rcases finish_declined u.attempt u.verdict.err n with
    ⟨reply, answered, clean, ok⟩ | ⟨refused, e, rest, failed, origin⟩
  · rw [verdict] at clean
    exact .inl ⟨reply, (write_passes_iff stillWrite other same.retryUnsafe answered).mp clean,
      by rw [ok]⟩
  · refine .inr ⟨?_, ?_⟩
    · intro reply accepted
      apply refused reply accepted.answered
      rw [verdict]
      exact (write_passes_iff stillWrite other same.retryUnsafe accepted.answered).mpr accepted
    · have marks : (req.retryUnsafe || (guarded sent.state && sent.state.requestWritten)) = true := by
        rw [kept.1.guarded, same.guarded, kept.2, written wrote, Bool.and_true, Bool.or_comm]
        exact write
      unfold guarded at marks
      simp only [failed, marks, ↓reduceIte]
      refine ⟨_, rfl, ⟨_, rest, rfl, rfl⟩, ?_⟩
      rcases origin with cause | ⟨causes, rfl⟩
      · rw [verdict] at cause
        exact write_verdict_quiet stillWrite other cause
      · intro link member
        obtain ⟨cause, -, rfl⟩ := List.mem_map.mp member
        rfl

end BrokerMcp.Proof.Retry
