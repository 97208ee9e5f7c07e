import BrokerMcp.Resilience.Retry

namespace BrokerMcp.Proof.Retry
open Resilience

def guarded (state : RetryState) : Bool :=
  (state.method = methodPost || state.method = methodPatch) && !state.retrySafe

def recovered (state : RetryState) : RetryState :=
  if state.auth401Retried then { state with authRecovered := true } else state

inductive Asks (state : RetryState) (a : Attempt) : RetryState → Prop where
  | transport (resp : Option Reply) (err : List Foreign) (failed : a.outcome = .failed resp err)
      (allowed : state.retryUnsafe = false) : Asks state a state
  | unauthorized (status : a.outcome.status? = some 401) (first : state.auth401Retried = false)
      (able : a.authResult.retry = true) :
      Asks state a { state with
        auth401Retried := true
        authRecovered := false
        needsReauth := a.authResult.reAuth }
  | transient (code : Nat) (status : a.outcome.status? = some code) (busy : code = 429 ∨ code = 503)
      (allowed : state.retryUnsafe = false) (room : state.transientRetried < maxTransientRetries) :
      Asks state a { recovered state with transientRetried := state.transientRetried + 1 }
  | serverError (code : Nat) (status : a.outcome.status? = some code) (error : 500 ≤ code)
      (other : code ≠ 503) (allowed : state.retryUnsafe = false)
      (first : state.other5xxRetried = false) :
      Asks state a { recovered state with other5xxRetried := true }

theorem recovered_frame (state : RetryState) :
    ∃ b, recovered state = { state with authRecovered := b } := by
  unfold recovered
  split_ifs
  · exact ⟨true, rfl⟩
  · exact ⟨state.authRecovered, rfl⟩

theorem checkStatus_other (state : RetryState) (result : AuthFailureResult) {code : Nat}
    (other : code ≠ 401) : checkStatus state result code =
      if (recovered state).retryUnsafe && retryableStatus code then
        ⟨recovered state, false, some [.errNonIdempotentNotRetried]⟩
      else if code = 429 ∨ code = 503 then
        if (recovered state).transientRetried ≥ maxTransientRetries then
          ⟨recovered state, false, some [.errTransientCapReached]⟩
        else ⟨{ recovered state with
          transientRetried := (recovered state).transientRetried + 1 }, true, none⟩
      else if code ≥ 500 then
        if !(recovered state).other5xxRetried then
          ⟨{ recovered state with other5xxRetried := true }, true, none⟩
        else ⟨recovered state, false, none⟩
      else ⟨recovered state, false, none⟩ := by
  rw [checkStatus, if_neg other]
  rfl

theorem checkStatus_asks {state : RetryState} {a : Attempt} {code : Nat}
    (status : a.outcome.status? = some code)
    (asked : (checkStatus state a.authResult code).retry = true) :
    Asks state a (checkStatus state a.authResult code).state := by
  by_cases unauthorized : code = 401
  · subst unauthorized
    cases first : state.auth401Retried with
    | true => simp [checkStatus, first] at asked
    | false =>
        cases able : a.authResult.retry with
        | false => simp [checkStatus, first, able] at asked
        | true =>
            simp only [checkStatus, first, able, ↓reduceIte, Bool.not_false]
            exact .unauthorized status first able
  · obtain ⟨b, frame⟩ := recovered_frame state
    rw [checkStatus_other state a.authResult unauthorized] at asked ⊢
    split_ifs at asked ⊢ with gated busy capped error spent
    · have allowed : state.retryUnsafe = false := by
        have retryable : retryableStatus code = true := by
          rcases busy with rfl | rfl <;> rfl
        simpa [frame, retryable] using gated
      have count : (recovered state).transientRetried = state.transientRetried := by rw [frame]
      rw [count]
      rw [count] at capped
      exact .transient code status busy allowed (Nat.lt_of_not_le capped)
    · have allowed : state.retryUnsafe = false := by
        have retryable : retryableStatus code = true := by simp [retryableStatus, error]
        simpa [frame, retryable] using gated
      have first : state.other5xxRetried = false := by simpa [frame] using spent
      exact .serverError code status error (fun same => busy (.inr same)) allowed first

theorem checkRetry_guarded {state : RetryState} {a : Attempt} (guard : guarded state = true) :
    (checkRetry state a).retry = false ∧ (checkRetry state a).state = state := by
  unfold guarded at guard
  unfold checkRetry
  cases a.ctxErr with
  | some err => exact ⟨rfl, rfl⟩
  | none =>
      simp only [guard, ↓reduceIte]
      cases a.outcome with
      | failed resp err => exact ⟨rfl, rfl⟩
      | answered reply =>
          dsimp only
          split_ifs <;> exact ⟨rfl, rfl⟩

theorem checkRetry_unguarded {state : RetryState} {a : Attempt} (live : a.ctxErr = none)
    (guard : guarded state = false) : checkRetry state a =
      match a.outcome with
      | .failed _ _ =>
          if state.retryUnsafe then ⟨state, false, none⟩
          else ⟨state, a.policy.1, a.policy.2.map (List.map .foreign)⟩
      | .answered reply => checkStatus state a.authResult reply.statusCode := by
  unfold guarded at guard
  cases outcome : a.outcome with
  | failed resp err | answered reply =>
      simp only [checkRetry, live, guard, outcome, Bool.false_eq_true, ↓reduceIte]

theorem checkRetry_asks {state : RetryState} {a : Attempt}
    (asked : (checkRetry state a).retry = true) :
    a.ctxErr = none ∧ guarded state = false ∧ Asks state a (checkRetry state a).state := by
  have live : a.ctxErr = none := by
    cases context : a.ctxErr with
    | none => rfl
    | some err => simp [checkRetry, context] at asked
  cases guard : guarded state with
  | true => simp [(checkRetry_guarded guard).1] at asked
  | false =>
      refine ⟨live, rfl, ?_⟩
      rw [checkRetry_unguarded live guard] at asked ⊢
      cases outcome : a.outcome with
      | failed resp err =>
          simp only [outcome] at asked ⊢
          split_ifs at asked ⊢ with marked
          exact .transport resp err outcome (by simpa using marked)
      | answered reply =>
          simp only [outcome] at asked ⊢
          exact checkStatus_asks (by simp [outcome, Outcome.status?]) asked

def written (state : RetryState) (a : Attempt) : RetryState :=
  { state with requestWritten := state.requestWritten || a.wroteHeaders }

def attempted (state : RetryState) (a : Attempt) (reauthed : Bool) : Try :=
  ⟨a, written state a, checkRetry (written state a) a, reauthed⟩

inductive Looped (attempts : Nat → Attempt) :
    (remain i : Nat) → RetryState → (reauthed : Bool) → Sent → Prop where
  | declined {remain i : Nat} {state : RetryState} {reauthed : Bool} {t : Try}
      (here : t = attempted state (attempts i) reauthed) (declined : t.verdict.retry = false) :
      Looped attempts remain i state reauthed
        ⟨[t], t.verdict.state, finish t.attempt false none t.verdict.err (i + 1)⟩
  | stopped {remain i : Nat} {state : RetryState} {reauthed : Bool} {t : Try} {sent : Sent}
      (here : t = attempted state (attempts i) reauthed) (asked : t.verdict.retry = true)
      (stuck : remain = 0 ∨ t.attempt.backoff.isSome = true ∨
        (prepareRetry t.verdict.state t.attempt.addAuth).2.2.isSome = true)
      (alone : sent.tries = [t]) : Looped attempts remain i state reauthed sent
  | again {remain i : Nat} {state : RetryState} {reauthed : Bool} {t : Try} {rest : Sent}
      (here : t = attempted state (attempts i) reauthed) (asked : t.verdict.retry = true)
      (waited : t.attempt.backoff = none)
      (prepared : (prepareRetry t.verdict.state t.attempt.addAuth).2.2 = none)
      (loop : Looped attempts remain (i + 1) (prepareRetry t.verdict.state t.attempt.addAuth).1
        (prepareRetry t.verdict.state t.attempt.addAuth).2.1 rest) :
      Looped attempts (remain + 1) i state reauthed { rest with tries := t :: rest.tries }

theorem retryLoop_zero (attempts : Nat → Attempt) (i : Nat) (state : RetryState)
    (reauthed : Bool) : ∀ t, t = attempted state (attempts i) reauthed →
      retryLoop attempts 0 i state reauthed =
        if !t.verdict.retry then
          ⟨[t], t.verdict.state, finish t.attempt false none t.verdict.err (i + 1)⟩
        else ⟨[t], t.verdict.state, finish t.attempt true none t.verdict.err (i + 1)⟩ := by
  rintro t rfl
  rw [retryLoop]
  rfl

theorem retryLoop_succ (attempts : Nat → Attempt) (remain i : Nat) (state : RetryState)
    (reauthed : Bool) : ∀ t, t = attempted state (attempts i) reauthed →
      retryLoop attempts (remain + 1) i state reauthed =
        if !t.verdict.retry then
          ⟨[t], t.verdict.state, finish t.attempt false none t.verdict.err (i + 1)⟩
        else
          match t.attempt.backoff with
          | some err => ⟨[t], t.verdict.state, .error [.foreign (.context err)]⟩
          | none =>
              let next := prepareRetry t.verdict.state t.attempt.addAuth
              match next.2.2 with
              | some err =>
                  let drained := { t.attempt with outcome := t.attempt.outcome.closed }
                  ⟨[t], next.1, finish drained true (some err) t.verdict.err (i + 1)⟩
              | none =>
                  let rest := retryLoop attempts remain (i + 1) next.1 next.2.1
                  { rest with tries := t :: rest.tries } := by
  rintro t rfl
  rw [retryLoop]
  rfl

theorem retryLoop_looped (attempts : Nat → Attempt) (remain i : Nat) (state : RetryState)
    (reauthed : Bool) :
    Looped attempts remain i state reauthed (retryLoop attempts remain i state reauthed) := by
  obtain ⟨t, here⟩ : ∃ t, t = attempted state (attempts i) reauthed := ⟨_, rfl⟩
  induction remain generalizing i state reauthed t with
  | zero =>
      rw [retryLoop_zero attempts i state reauthed t here]
      cases asked : t.verdict.retry with
      | false => exact .declined here asked
      | true => exact .stopped here asked (.inl rfl) rfl
  | succ remain ih =>
      rw [retryLoop_succ attempts remain i state reauthed t here]
      cases asked : t.verdict.retry with
      | false => exact .declined here asked
      | true =>
          simp only [Bool.not_true, Bool.false_eq_true, ↓reduceIte]
          cases waited : t.attempt.backoff with
          | some err => exact .stopped here asked (.inr (.inl (by simp [waited]))) rfl
          | none =>
              cases prepared : (prepareRetry t.verdict.state t.attempt.addAuth).2.2 with
              | some err => exact .stopped here asked (.inr (.inr (by simp [prepared]))) rfl
              | none => exact .again here asked waited prepared (ih _ _ _ _ rfl)

theorem Looped.nonempty {attempts : Nat → Attempt} {remain i : Nat} {state : RetryState}
    {reauthed : Bool} {sent : Sent} (looped : Looped attempts remain i state reauthed sent) :
    sent.tries ≠ [] := by
  cases looped with
  | declined => exact List.cons_ne_nil _ _
  | stopped _ _ _ alone => simp [alone]
  | again => exact List.cons_ne_nil _ _

end BrokerMcp.Proof.Retry
