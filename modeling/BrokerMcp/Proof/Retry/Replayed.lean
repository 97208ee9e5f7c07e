import BrokerMcp.Proof.Retry.Outcome

namespace BrokerMcp.Proof.Retry
open Resilience

/-- From attempt `i` on, with `remain` retries left, each attempt before `n` is followed by another
and attempt `n` is answered by `reply`, which is let through. -/
inductive Answers (attempts : Nat → Attempt) : Nat → Nat → RetryState → Nat → Reply → Prop where
  | here {remain i : Nat} {state : RetryState} {reply : Reply}
      (answered : (attempts i).outcome = .answered reply)
      (accepted : (checkRetry (written state (attempts i)) (attempts i)).retry = false)
      (clean : (checkRetry (written state (attempts i)) (attempts i)).err = none) :
      Answers attempts remain i state i reply
  | later {remain i : Nat} {state : RetryState} {n : Nat} {reply : Reply}
      (asked : (checkRetry (written state (attempts i)) (attempts i)).retry = true)
      (waited : (attempts i).backoff = none)
      (prepared : (prepareRetry (checkRetry (written state (attempts i)) (attempts i)).state
        (attempts i).addAuth).2.2 = none)
      (next : Answers attempts remain (i + 1) (prepareRetry
        (checkRetry (written state (attempts i)) (attempts i)).state (attempts i).addAuth).1 n reply) :
      Answers attempts (remain + 1) i state n reply

theorem finish_retry {a : Attempt} {prepareErr checkErr : Option Chain} {n : Nat} {reply : Reply} :
    finish a true prepareErr checkErr n ≠ .ok reply := by
  unfold finish
  cases a.outcome <;> simp

theorem finish_ok {a : Attempt} {err : Option Chain} {n : Nat} {reply : Reply} :
    finish a false none err n = .ok reply ↔ a.outcome = .answered reply ∧ err = none := by
  unfold finish
  cases a.outcome with
  | failed resp cause => simp
  | answered r =>
      cases err with
      | none => simp
      | some err => simp

section Loop

variable {attempts : Nat → Attempt} {remain i : Nat} {state : RetryState} {reauthed : Bool}
  {reply : Reply} {n : Nat}

theorem declined_iff (declined : (attempted state (attempts i) reauthed).verdict.retry = false) :
    finish (attempts i) false none (attempted state (attempts i) reauthed).verdict.err (i + 1) =
        .ok reply ∧ i + 1 = n + 1 ↔ Answers attempts remain i state n reply := by
  rw [finish_ok, Nat.add_right_cancel_iff]
  constructor
  · rintro ⟨⟨answered, clean⟩, rfl⟩
    exact .here answered declined clean
  · intro answers
    cases answers with
    | here answered accepted clean => exact ⟨⟨answered, clean⟩, rfl⟩
    | later asked => cases declined.symm.trans asked

theorem again_iff (asked : (attempted state (attempts i) reauthed).verdict.retry = true) :
    Answers attempts (remain + 1) i state n reply ↔
      (attempts i).backoff = none ∧
      (prepareRetry (attempted state (attempts i) reauthed).verdict.state
        (attempts i).addAuth).2.2 = none ∧
      Answers attempts remain (i + 1) (prepareRetry
        (attempted state (attempts i) reauthed).verdict.state (attempts i).addAuth).1 n reply := by
  constructor
  · intro answers
    cases answers with
    | here answered accepted clean => cases asked.symm.trans accepted
    | later _ waited prepared next => exact ⟨waited, prepared, next⟩
  · rintro ⟨waited, prepared, next⟩
    exact .later asked waited prepared next

variable (reauthed) in
theorem retryLoop_ok_iff :
    (retryLoop attempts remain i state reauthed).result = .ok reply ∧
        i + (retryLoop attempts remain i state reauthed).tries.length = n + 1 ↔
      Answers attempts remain i state n reply := by
  induction remain generalizing i state reauthed with
  | zero =>
      rw [retryLoop_zero attempts i state reauthed _ rfl]
      cases asked : (attempted state (attempts i) reauthed).verdict.retry with
      | false => exact declined_iff asked
      | true =>
          constructor
          · rintro ⟨ok, -⟩
            exact absurd ok finish_retry
          · rintro ⟨-, accepted, -⟩
            cases asked.symm.trans accepted
  | succ remain ih =>
      rw [retryLoop_succ attempts remain i state reauthed _ rfl]
      cases asked : (attempted state (attempts i) reauthed).verdict.retry with
      | false => exact declined_iff asked
      | true =>
          simp only [Bool.not_true, Bool.false_eq_true, ↓reduceIte]
          rw [again_iff asked]
          cases waited : (attempted state (attempts i) reauthed).attempt.backoff with
          | some err =>
              constructor
              · rintro ⟨ok, -⟩
                cases ok
              · rintro ⟨calm, -⟩
                cases waited.symm.trans calm
          | none =>
              cases prepared : (prepareRetry (attempted state (attempts i) reauthed).verdict.state
                  (attempted state (attempts i) reauthed).attempt.addAuth).2.2 with
              | some err =>
                  constructor
                  · rintro ⟨ok, -⟩
                    exact absurd ok finish_retry
                  · rintro ⟨-, ready, -⟩
                    cases prepared.symm.trans ready
              | none =>
                  simp only [List.length_cons]
                  rw [Nat.add_comm (List.length _) 1, ← Nat.add_assoc, ih]
                  exact ⟨fun next => ⟨waited, prepared, next⟩, fun later => later.2.2⟩

end Loop

section Replay

variable (retryMax : Nat) (marked : Bool) (attempts : Nat → Attempt)

/-- The reply to attempt `k` is lost, or asks for another try that its kind still has. `marked` is
`WithRetryUnsafe`. -/
inductive Lost (k : Nat) : Prop where
  | transport (resp : Option Reply) (err : List Foreign)
      (failed : (attempts k).outcome = .failed resp err) (policy : (attempts k).policy.1 = true)
      (unmarked : marked = false)
  | unauthorized (refused : unauthorized (attempts k) = true)
      (first : ∀ j < k, Retry.unauthorized (attempts j) = false)
      (able : (attempts k).authResult.retry = true)
      (ready : (attempts k).authResult.reAuth = true → (attempts k).addAuth = none)
  | transient (busy : transient (attempts k) = true)
      (room : (List.range k).countP (fun j => Retry.transient (attempts j)) < maxTransientRetries)
      (unmarked : marked = false)
  | serverError (error : serverError (attempts k) = true)
      (first : ∀ j < k, Retry.serverError (attempts j) = false) (unmarked : marked = false)

structure Replayed (k : Nat) : Prop where
  room : k < retryMax
  live : (attempts k).ctxErr = none
  waited : (attempts k).backoff = none
  lost : Lost marked attempts k

structure Passes (k : Nat) (reply : Reply) : Prop where
  live : (attempts k).ctxErr = none
  answered : (attempts k).outcome = .answered reply
  unauthorized : Retry.unauthorized (attempts k) = true → (attempts k).authResult.retry = true →
    ∃ j < k, Retry.unauthorized (attempts j) = true
  transient : Retry.transient (attempts k) = false
  serverError : Retry.serverError (attempts k) = true →
    marked = false ∧ ∃ j < k, Retry.serverError (attempts j) = true

end Replay

section Tracking

variable {retryMax : Nat} {marked : Bool} {attempts : Nat → Attempt} {k : Nat} {state : RetryState}
  {reply : Reply}

structure Tracked (marked : Bool) (attempts : Nat → Attempt) (k : Nat) (state : RetryState) :
    Prop where
  guard : guarded state = false
  marked : state.retryUnsafe = marked
  calm : state.needsReauth = false
  unauthorized : state.auth401Retried.toNat = (List.range k).countP fun j => unauthorized (attempts j)
  transient : state.transientRetried = (List.range k).countP fun j => transient (attempts j)
  within : state.transientRetried ≤ maxTransientRetries
  serverError : state.other5xxRetried.toNat = (List.range k).countP fun j => serverError (attempts j)

theorem tracked_new {req : Request} (guard : guarded (.new req) = false) :
    Tracked req.retryUnsafe attempts 0 (.new req) :=
  ⟨guard, rfl, rfl, rfl, rfl, Nat.zero_le _, rfl⟩

theorem first_iff {spent : Bool} {p : Nat → Bool} (count : spent.toNat = (List.range k).countP p) :
    spent = false ↔ ∀ j < k, p j = false := by
  rw [← Bool.toNat_eq_zero, count, List.countP_eq_zero]
  simp only [List.mem_range, Bool.not_eq_true]

theorem spent_iff {spent : Bool} {p : Nat → Bool} (count : spent.toNat = (List.range k).countP p) :
    spent = true ↔ ∃ j < k, p j = true := by
  rw [← Bool.not_eq_false, first_iff count]
  simp only [not_forall, Bool.not_eq_false, exists_prop]

theorem countP_range_succ (p : Nat → Bool) :
    (List.range (k + 1)).countP p = (List.range k).countP p + (p k).toNat := by
  rw [List.range_succ, List.countP_append, Counting.countP_cons_toNat, List.countP_nil, Nat.zero_add]

theorem Tracked.next (tracked : Tracked marked attempts k state)
    (asked : (checkRetry (written state (attempts k)) (attempts k)).retry = true) :
    Tracked marked attempts (k + 1) (prepareRetry
      (checkRetry (written state (attempts k)) (attempts k)).state (attempts k).addAuth).1 := by
  obtain ⟨-, -, asks⟩ := checkRetry_asks asked
  obtain ⟨same, -⟩ := checkRetry_same (written state (attempts k)) (attempts k)
  have first := (unauthorized_allowance.pays asks (Bool.toNat_le _)).1
  have busy := transient_allowance.pays asks tracked.within
  have error := (serverError_allowance.pays asks (Bool.toNat_le _)).1
  rw [prepareRetry_frame]
  refine ⟨same.guarded.trans tracked.guard, same.retryUnsafe.trans tracked.marked, rfl, ?_, ?_, busy.2,
    ?_⟩
  · rw [countP_range_succ, ← tracked.unauthorized]
    exact first
  · rw [countP_range_succ, ← tracked.transient]
    exact busy.1
  · rw [countP_range_succ, ← tracked.serverError]
    exact error

theorem Asks.verdict {a : Attempt} {after : RetryState} (asks : Asks state a after)
    (live : a.ctxErr = none) (guard : guarded state = false)
    (policy : ∀ resp err, a.outcome = .failed resp err → a.policy.1 = true) :
    (checkRetry state a).retry = true ∧ (checkRetry state a).state = after := by
  obtain ⟨b, frame⟩ := recovered_frame state
  rw [checkRetry_unguarded live guard]
  cases asks with
  | transport resp err failed allowed => simp [failed, allowed, policy resp err failed]
  | unauthorized status first able =>
      cases outcome : a.outcome with
      | failed resp err => simp [outcome, Outcome.status?] at status
      | answered reply =>
          have code : reply.statusCode = 401 := by simpa [outcome, Outcome.status?] using status
          simp [checkStatus, code, first, able]
  | transient code status busy allowed room =>
      cases outcome : a.outcome with
      | failed resp err => simp [outcome, Outcome.status?] at status
      | answered reply =>
          obtain rfl : reply.statusCode = code := by simpa [outcome, Outcome.status?] using status
          have other : reply.statusCode ≠ 401 := by omega
          dsimp only
          rw [checkStatus_other state a.authResult other]
          simp [frame, allowed, busy, Nat.not_le.mpr room]
  | serverError code status error apart allowed first =>
      cases outcome : a.outcome with
      | failed resp err => simp [outcome, Outcome.status?] at status
      | answered reply =>
          obtain rfl : reply.statusCode = code := by simpa [outcome, Outcome.status?] using status
          have other : reply.statusCode ≠ 401 := by omega
          have calm : reply.statusCode ≠ 429 := by omega
          dsimp only
          rw [checkStatus_other state a.authResult other]
          simp [frame, allowed, apart, calm, error, first]

theorem transient_code {a : Attempt} (busy : transient a = true) :
    ∃ code, a.outcome.status? = some code ∧ (code = 429 ∨ code = 503) := by
  rcases Bool.or_eq_true_iff.mp busy with status | status
  · exact ⟨429, of_decide_eq_true status, .inl rfl⟩
  · exact ⟨503, of_decide_eq_true status, .inr rfl⟩

theorem serverError_code {a : Attempt} (error : serverError a = true) :
    ∃ code, a.outcome.status? = some code ∧ 500 ≤ code ∧ code ≠ 503 := by
  obtain ⟨code, status, range⟩ := (Option.any_eq_true _ _).mp error
  simp only [Bool.and_eq_true, decide_eq_true_eq] at range
  exact ⟨code, status, range⟩

theorem Lost.asks (lost : Lost marked attempts k) (tracked : Tracked marked attempts k state) :
    ∃ after, Asks (written state (attempts k)) (attempts k) after ∧
      (∀ resp err, (attempts k).outcome = .failed resp err → (attempts k).policy.1 = true) ∧
      (prepareRetry after (attempts k).addAuth).2.2 = none := by
  have allowed (unmarked : marked = false) : (written state (attempts k)).retryUnsafe = false :=
    tracked.marked.trans unmarked
  have ready {after : RetryState} (calm : after.needsReauth = false) :
      (prepareRetry after (attempts k).addAuth).2.2 = none := by simp [prepareRetry, calm]
  have answered {code : Nat} (status : (attempts k).outcome.status? = some code) :
      ∀ resp err, (attempts k).outcome = .failed resp err → (attempts k).policy.1 = true := by
    intro resp err failed
    simp [failed, Outcome.status?] at status
  obtain ⟨b, frame⟩ := recovered_frame (written state (attempts k))
  cases lost with
  | transport resp err failed policy unmarked =>
      exact ⟨_, .transport resp err failed (allowed unmarked), fun _ _ _ => policy, ready tracked.calm⟩
  | unauthorized refused first able prepared =>
      have status := of_decide_eq_true refused
      refine ⟨_, .unauthorized status ((first_iff tracked.unauthorized).mpr first) able,
        answered status, ?_⟩
      cases reAuth : (attempts k).authResult.reAuth with
      | true => simpa [prepareRetry] using prepared reAuth
      | false => exact ready rfl
  | transient busy room unmarked =>
      obtain ⟨code, status, kind⟩ := transient_code busy
      refine ⟨_, .transient code status kind (allowed unmarked) (tracked.transient ▸ room),
        answered status, ready ?_⟩
      rw [frame]
      exact tracked.calm
  | serverError error first unmarked =>
      obtain ⟨code, status, kind, other⟩ := serverError_code error
      refine ⟨_, .serverError code status kind other (allowed unmarked)
        ((first_iff tracked.serverError).mpr first), answered status, ready ?_⟩
      rw [frame]
      exact tracked.calm

theorem Tracked.replays_iff (tracked : Tracked marked attempts k state) :
    ((checkRetry (written state (attempts k)) (attempts k)).retry = true ∧
      (prepareRetry (checkRetry (written state (attempts k)) (attempts k)).state
        (attempts k).addAuth).2.2 = none) ↔
    (attempts k).ctxErr = none ∧ Lost marked attempts k := by
  have guard : guarded (written state (attempts k)) = false := tracked.guard
  constructor
  · rintro ⟨asked, prepared⟩
    obtain ⟨live, -, asks⟩ := checkRetry_asks asked
    refine ⟨live, ?_⟩
    generalize (checkRetry (written state (attempts k)) (attempts k)).state = after at asks prepared
    cases asks with
    | transport resp err failed allowed =>
        rw [checkRetry_unguarded live guard] at asked
        exact .transport resp err failed (by simpa [failed, allowed] using asked)
          (tracked.marked.symm.trans allowed)
    | unauthorized status first able =>
        refine .unauthorized (decide_eq_true status) ((first_iff tracked.unauthorized).mp first) able ?_
        intro reAuth
        simpa [prepareRetry, reAuth] using prepared
    | transient code status busy allowed room =>
        refine .transient ?_ (tracked.transient ▸ room) (tracked.marked.symm.trans allowed)
        rcases busy with rfl | rfl <;> simp [Retry.transient, status]
    | serverError code status error apart allowed first =>
        refine .serverError ?_ ((first_iff tracked.serverError).mp first)
          (tracked.marked.symm.trans allowed)
        simp [Retry.serverError, status, error, apart]
  · rintro ⟨live, lost⟩
    obtain ⟨after, asks, policy, prepared⟩ := lost.asks tracked
    obtain ⟨asked, same⟩ := asks.verdict live guard policy
    exact ⟨asked, same ▸ prepared⟩

theorem checkStatus_passes_iff (result : AuthFailureResult) (code : Nat) :
    ((checkStatus state result code).retry = false ∧ (checkStatus state result code).err = none) ↔
      (code = 401 → result.retry = true → state.auth401Retried = true) ∧
      ¬ (code = 429 ∨ code = 503) ∧
      (500 ≤ code → state.retryUnsafe = false ∧ state.other5xxRetried = true) := by
  by_cases refused : code = 401
  · subst refused
    cases spent : state.auth401Retried with
    | true => simp [checkStatus, spent]
    | false => cases able : result.retry <;> simp [checkStatus, spent, able]
  · obtain ⟨b, frame⟩ := recovered_frame state
    rw [checkStatus_other state result refused, frame]
    dsimp only
    split_ifs with gated busy capped error fresh
    · obtain ⟨gate, retryable⟩ := Bool.and_eq_true_iff.mp gated
      refine iff_of_false (by simp) ?_
      rintro ⟨-, calm, allowed⟩
      simp only [retryableStatus, Bool.or_eq_true, decide_eq_true_eq] at retryable
      cases gate.symm.trans (allowed (by omega)).1
    · exact iff_of_false (by simp) fun quiet => quiet.2.1 busy
    · exact iff_of_false (by simp) fun quiet => quiet.2.1 busy
    · refine iff_of_false (by simp) fun quiet => ?_
      cases (Bool.not_eq_true' _ ▸ fresh).symm.trans (quiet.2.2 error).2
    · simp only [retryableStatus, error, decide_true, Bool.or_true, Bool.and_true,
        Bool.not_eq_true] at gated
      simp only [Bool.not_eq_true', Bool.not_eq_false] at fresh
      simp [refused, busy, gated, fresh]
    · simp [refused, busy, error]

theorem Tracked.passes_iff (tracked : Tracked marked attempts k state) :
    ((attempts k).outcome = .answered reply ∧
      (checkRetry (written state (attempts k)) (attempts k)).retry = false ∧
      (checkRetry (written state (attempts k)) (attempts k)).err = none) ↔
    Passes marked attempts k reply := by
  have guard : guarded (written state (attempts k)) = false := tracked.guard
  cases live : (attempts k).ctxErr with
  | some err =>
      refine iff_of_false (by simp [checkRetry, live]) ?_
      intro passes
      cases live.symm.trans passes.live
  | none =>
      rw [checkRetry_unguarded live guard]
      cases outcome : (attempts k).outcome with
      | failed resp err =>
          refine iff_of_false (by simp) ?_
          intro passes
          cases outcome.symm.trans passes.answered
      | answered other =>
          have status : (attempts k).outcome.status? = some other.statusCode := by
            rw [outcome]
            rfl
          dsimp only
          rw [checkStatus_passes_iff]
          constructor
          · rintro ⟨same, spent, calm, again⟩
            obtain rfl := Outcome.answered.inj same
            refine ⟨live, outcome, ?_, ?_, ?_⟩
            · intro refused able
              have code := Option.some.inj (status.symm.trans (of_decide_eq_true refused))
              exact (spent_iff tracked.unauthorized).mp (spent code able)
            · simpa [Retry.transient, status] using calm
            · intro error
              obtain ⟨code, status', range, -⟩ := serverError_code error
              obtain rfl := Option.some.inj (status.symm.trans status')
              obtain ⟨unmarked, second⟩ := again range
              exact ⟨tracked.marked.symm.trans unmarked, (spent_iff tracked.serverError).mp second⟩
          · intro passes
            refine ⟨congrArg _ (Outcome.answered.inj (outcome.symm.trans passes.answered)), ?_, ?_, ?_⟩
            · intro code able
              have refused : Retry.unauthorized (attempts k) = true :=
                decide_eq_true (code ▸ status)
              exact (spent_iff tracked.unauthorized).mpr (passes.unauthorized refused able)
            · simpa [Retry.transient, status] using passes.transient
            · intro error
              have calm : ¬ (other.statusCode = 429 ∨ other.statusCode = 503) := by
                simpa [Retry.transient, status] using passes.transient
              obtain ⟨unmarked, second⟩ := passes.serverError
                (by simpa [Retry.serverError, status, error] using fun same => calm (.inr same))
              exact ⟨tracked.marked.trans unmarked, (spent_iff tracked.serverError).mpr second⟩

/-- The attempt that answers a call, told from the attempts alone. -/
theorem answers_iff {remain i n : Nat} (tracked : Tracked marked attempts i state)
    (budget : i + remain = retryMax) :
    Answers attempts remain i state n reply ↔
      i ≤ n ∧ (∀ j, i ≤ j → j < n → Replayed retryMax marked attempts j) ∧
        Passes marked attempts n reply := by
  constructor
  · intro answers
    induction answers with
    | here answered accepted clean =>
        exact ⟨le_rfl, fun j low high => by omega,
          tracked.passes_iff.mp ⟨answered, accepted, clean⟩⟩
    | @later remain i state n reply asked waited prepared next ih =>
        obtain ⟨le, replayed, passes⟩ := ih (tracked.next asked) (by omega)
        obtain ⟨live, lost⟩ := tracked.replays_iff.mp ⟨asked, prepared⟩
        refine ⟨by omega, fun j low high => ?_, passes⟩
        rcases Nat.eq_or_lt_of_le low with rfl | later
        · exact ⟨by omega, live, waited, lost⟩
        · exact replayed j later high
  · rintro ⟨le, replayed, passes⟩
    induction remain generalizing i state with
    | zero =>
        obtain rfl : i = n := by
          rcases Nat.eq_or_lt_of_le le with same | less
          · exact same
          · have room := (replayed i le_rfl less).room
            omega
        obtain ⟨answered, accepted, clean⟩ := tracked.passes_iff.mpr passes
        exact .here answered accepted clean
    | succ remain ih =>
        rcases Nat.eq_or_lt_of_le le with rfl | less
        · obtain ⟨answered, accepted, clean⟩ := tracked.passes_iff.mpr passes
          exact .here answered accepted clean
        · obtain ⟨-, live, waited, lost⟩ := replayed i le_rfl less
          obtain ⟨asked, prepared⟩ := tracked.replays_iff.mpr ⟨live, lost⟩
          exact .later asked waited prepared (ih (tracked.next asked) (by omega) less
            fun j low high => replayed j (by omega) high)

end Tracking

section Local

variable {retryMax : Nat} {marked : Bool} {attempts attempts' : Nat → Attempt} {k : Nat}
  (same : ∀ j ≤ k, attempts' j = attempts j)
include same

theorem Lost.of_agree (lost : Lost marked attempts k) : Lost marked attempts' k := by
  have here := same k le_rfl
  cases lost with
  | transport resp err failed policy unmarked =>
      exact .transport resp err (here ▸ failed) (here ▸ policy) unmarked
  | unauthorized refused first able ready =>
      refine .unauthorized (here ▸ refused) (fun j less => ?_) (here ▸ able) (here ▸ ready)
      rw [same j less.le]
      exact first j less
  | transient busy room unmarked =>
      have count : (List.range k).countP (fun j => Retry.transient (attempts' j)) =
          (List.range k).countP fun j => Retry.transient (attempts j) := by
        apply List.countP_congr
        intro j member
        rw [same j (List.mem_range.mp member).le]
      exact .transient (here ▸ busy) (count ▸ room) unmarked
  | serverError error first unmarked =>
      refine .serverError (here ▸ error) (fun j less => ?_) unmarked
      rw [same j less.le]
      exact first j less

theorem Replayed.of_agree (replayed : Replayed retryMax marked attempts k) :
    Replayed retryMax marked attempts' k := by
  have here := same k le_rfl
  exact ⟨replayed.room, here ▸ replayed.live, here ▸ replayed.waited, replayed.lost.of_agree same⟩

theorem Passes.of_agree {reply : Reply} (passes : Passes marked attempts k reply) :
    Passes marked attempts' k reply := by
  have here := same k le_rfl
  refine ⟨here ▸ passes.live, here ▸ passes.answered, ?_, here ▸ passes.transient, ?_⟩
  · intro refused able
    rw [here] at refused able
    obtain ⟨j, less, earlier⟩ := passes.unauthorized refused able
    exact ⟨j, less, (same j less.le).symm ▸ earlier⟩
  · intro error
    rw [here] at error
    obtain ⟨unmarked, j, less, earlier⟩ := passes.serverError error
    exact ⟨unmarked, j, less, (same j less.le).symm ▸ earlier⟩

end Local

end BrokerMcp.Proof.Retry
