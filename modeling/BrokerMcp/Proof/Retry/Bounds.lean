import BrokerMcp.Proof.Retry.Loop

namespace BrokerMcp.Proof.Retry
open Resilience

def unauthorized (a : Attempt) : Bool := a.outcome.status? = some 401

def transient (a : Attempt) : Bool :=
  a.outcome.status? = some 429 || a.outcome.status? = some 503

def serverError (a : Attempt) : Bool :=
  a.outcome.status?.any fun code => 500 ≤ code && code ≠ 503

def answered (a : Attempt) : Bool := a.outcome.status?.isSome

structure Allowance (cause : Attempt → Bool) (spent : RetryState → Nat) (cap : Nat) : Prop where
  pays : ∀ {state a state'}, Asks state a state' → spent state ≤ cap →
    spent state' = spent state + (cause a).toNat ∧ spent state' ≤ cap
  written : ∀ state a, spent (written state a) = spent state
  prepared : ∀ state err, spent (prepareRetry state err).1 = spent state

theorem prepareRetry_frame (state : RetryState) (err : Option Chain) :
    (prepareRetry state err).1 = { state with needsReauth := false } := by
  obtain ⟨_, _, _, _, _, _, _, _, needsReauth⟩ := state
  cases needsReauth <;> rfl

theorem prepareRetry_fails_iff (state : RetryState) (err : Option Chain) :
    (prepareRetry state err).2.2.isSome = true ↔ state.needsReauth = true ∧ err.isSome = true := by
  unfold prepareRetry
  cases state.needsReauth <;> simp

theorem unauthorized_allowance : Allowance unauthorized (·.auth401Retried.toNat) 1 where
  pays {state a state'} asks bounded := by
    obtain ⟨b, frame⟩ := recovered_frame state
    cases asks with
    | transport resp err failed => simp [unauthorized, failed, Outcome.status?, bounded]
    | unauthorized status first => simp [unauthorized, status, first]
    | transient code status busy =>
        rcases busy with rfl | rfl <;> simp [unauthorized, status, frame, bounded]
    | serverError code status error =>
        have other : code ≠ 401 := by omega
        simp [unauthorized, status, other, frame, bounded]
  written _ _ := rfl
  prepared state err := by rw [prepareRetry_frame]

theorem transient_allowance : Allowance transient (·.transientRetried) maxTransientRetries where
  pays {state a state'} asks bounded := by
    obtain ⟨b, frame⟩ := recovered_frame state
    cases asks with
    | transport resp err failed => simp [transient, failed, Outcome.status?, bounded]
    | unauthorized status => simp [transient, status, bounded]
    | transient code status busy allowed room =>
        have within := Nat.succ_le_of_lt room
        rcases busy with rfl | rfl <;> simpa [transient, status] using within
    | serverError code status error other =>
        have calm : code ≠ 429 := by omega
        simp [transient, status, other, calm, frame, bounded]
  written _ _ := rfl
  prepared state err := by rw [prepareRetry_frame]

theorem serverError_allowance : Allowance serverError (·.other5xxRetried.toNat) 1 where
  pays {state a state'} asks bounded := by
    obtain ⟨b, frame⟩ := recovered_frame state
    cases asks with
    | transport resp err failed => simp [serverError, failed, Outcome.status?, bounded]
    | unauthorized status => simp [serverError, status, bounded]
    | transient code status busy =>
        rcases busy with rfl | rfl <;> simp [serverError, status, frame, bounded]
    | serverError code status error other allowed first =>
        simp [serverError, status, error, other, first]
  written _ _ := rfl
  prepared state err := by rw [prepareRetry_frame]

section Loop

variable {attempts : Nat → Attempt} {remain i : Nat} {state : RetryState} {reauthed : Bool}
  {sent : Sent}

theorem attempted_asks {t : Try} {a : Attempt} (here : t = attempted state a reauthed)
    (asked : t.verdict.retry = true) : t.attempt.ctxErr = none ∧ guarded state = false ∧
      Asks (written state t.attempt) t.attempt t.verdict.state := by
  subst here
  exact checkRetry_asks asked

theorem Looped.length_le (looped : Looped attempts remain i state reauthed sent) :
    sent.tries.length ≤ remain + 1 := by
  induction looped with
  | declined => simp
  | stopped _ _ _ alone => simp [alone]
  | again _ _ _ _ _ ih => simpa using ih

theorem Looped.within {cause : Attempt → Bool} {spent : RetryState → Nat} {cap : Nat}
    (allowance : Allowance cause spent cap)
    (looped : Looped attempts remain i state reauthed sent) (bounded : spent state ≤ cap) :
    (sent.tries.dropLast.countP fun t => cause t.attempt) + spent state ≤ cap := by
  induction looped with
  | declined => simpa using bounded
  | stopped _ _ _ alone => simpa [alone] using bounded
  | @again remain i state reauthed t rest here asked _ _ loop ih =>
      obtain ⟨-, -, asks⟩ := attempted_asks here asked
      obtain ⟨pays, within⟩ := allowance.pays asks (by rwa [allowance.written])
      rw [allowance.written] at pays
      have later := ih (by rwa [allowance.prepared])
      rw [allowance.prepared] at later
      rw [List.dropLast_cons_of_ne_nil loop.nonempty, Counting.countP_cons_toNat]
      omega

theorem Looped.asked (looped : Looped attempts remain i state reauthed sent) :
    ∀ t ∈ sent.tries.dropLast, ∃ before after, Asks before t.attempt after := by
  induction looped with
  | declined => simp
  | stopped _ _ _ alone => simp [alone]
  | again here asked _ _ loop ih =>
      rw [List.dropLast_cons_of_ne_nil loop.nonempty]
      rintro u (_ | ⟨_, member⟩)
      · exact ⟨_, _, (attempted_asks here asked).2.2⟩
      · exact ih u member

theorem cause_of_asks {a : Attempt} {before after : RetryState} (asks : Asks before a after)
    (reply : answered a = true) :
    1 ≤ (unauthorized a).toNat + (transient a).toNat + (serverError a).toNat := by
  cases asks with
  | transport resp err failed => simp [answered, failed, Outcome.status?] at reply
  | unauthorized status =>
      have here : unauthorized a = true := by simp [unauthorized, status]
      rw [here, Bool.toNat_true]
      omega
  | transient code status busy =>
      have here : transient a = true := by
        rcases busy with rfl | rfl <;> simp [transient, status]
      rw [here, Bool.toNat_true]
      omega
  | serverError code status error other =>
      have here : serverError a = true := by simp [serverError, status, error, other]
      rw [here, Bool.toNat_true]
      omega

theorem Looped.length_le_six (looped : Looped attempts remain i state reauthed sent)
    (fresh : state.auth401Retried = false ∧ state.transientRetried = 0 ∧
      state.other5xxRetried = false)
    (replies : ∀ t ∈ sent.tries, answered t.attempt = true) : sent.tries.length ≤ 6 := by
  obtain ⟨first, second, third⟩ := fresh
  have one := looped.within unauthorized_allowance (by simp [first])
  have three := looped.within transient_allowance (by simp [second])
  have other := looped.within serverError_allowance (by simp [third])
  have caused : ∀ t ∈ sent.tries.dropLast, 1 ≤ (unauthorized t.attempt).toNat +
      (transient t.attempt).toNat + (serverError t.attempt).toNat := by
    intro t member
    obtain ⟨before, after, asks⟩ := looped.asked t member
    exact cause_of_asks asks (replies t (List.dropLast_subset _ member))
  have covered := Counting.length_le_countP (p := fun t : Try => unauthorized t.attempt) caused
  rw [List.length_dropLast] at covered
  simp only [maxTransientRetries] at three
  omega

theorem Looped.guarded_once (looped : Looped attempts remain i state reauthed sent)
    (guard : guarded state = true) : sent.tries.length = 1 := by
  cases looped with
  | declined => rfl
  | stopped _ _ _ alone => simp [alone]
  | again here asked => simp [(attempted_asks here asked).2.1] at guard

theorem asks_unauthorized {a : Attempt} {before after : RetryState} (asks : Asks before a after)
    (marked : before.retryUnsafe = true) : unauthorized a = true ∧ before.auth401Retried = false ∧
      after.auth401Retried = true ∧ after.retryUnsafe = true := by
  cases asks with
  | unauthorized status first => exact ⟨by simp [unauthorized, status], first, rfl, marked⟩
  | transport _ _ _ allowed | transient _ _ _ allowed | serverError _ _ _ _ allowed =>
      cases marked.symm.trans allowed

theorem Looped.marked_twice (looped : Looped attempts remain i state reauthed sent)
    (marked : state.retryUnsafe = true) :
    sent.tries.length = 1 ∨ ∃ t t', sent.tries = [t, t'] ∧ unauthorized t.attempt = true := by
  cases looped with
  | declined => exact .inl rfl
  | stopped _ _ _ alone => exact .inl (by simp [alone])
  | @again remain i state reauthed t rest here asked _ _ loop =>
      obtain ⟨refused, -, retried, still⟩ := asks_unauthorized (attempted_asks here asked).2.2 marked
      obtain ⟨t', alone⟩ : ∃ t', rest.tries = [t'] := by
        rw [prepareRetry_frame] at loop
        cases loop with
        | @declined _ _ _ _ t' => exact ⟨t', rfl⟩
        | @stopped _ _ _ _ t' _ _ _ _ alone => exact ⟨t', alone⟩
        | again here' asked' =>
            obtain ⟨-, first, -⟩ := asks_unauthorized (attempted_asks here' asked').2.2 still
            cases retried.symm.trans first
      exact .inr ⟨t, t', by rw [alone], refused⟩

theorem asks_needsReauth {a : Attempt} {before after : RetryState} (asks : Asks before a after)
    (clear : before.needsReauth = false) : after.needsReauth = true ↔
      unauthorized a = true ∧ before.auth401Retried = false ∧ a.authResult.reAuth = true := by
  obtain ⟨b, frame⟩ := recovered_frame before
  cases asks with
  | transport resp err failed => simp [unauthorized, failed, Outcome.status?, clear]
  | unauthorized status first => simp [unauthorized, status, first]
  | transient code status busy => rcases busy with rfl | rfl <;> simp [unauthorized, status, frame, clear]
  | serverError code status error =>
      have other : code ≠ 401 := by omega
      simp [unauthorized, status, other, frame, clear]

theorem prepareRetry_reauthed (state : RetryState) (err : Option Chain) :
    (prepareRetry state err).2.1 = state.needsReauth := by
  unfold prepareRetry
  cases state.needsReauth <;> rfl

theorem Looped.first_reauthed (looped : Looped attempts remain i state reauthed sent) {t : Try}
    {rest : List Try} (split : sent.tries = t :: rest) : t.reauthed = reauthed := by
  cases looped with
  | declined here =>
      obtain rfl := (List.cons.inj split).1
      rw [here]
      rfl
  | stopped here _ _ alone =>
      obtain rfl := (List.cons.inj (alone.symm.trans split)).1
      rw [here]
      rfl
  | again here =>
      obtain rfl := (List.cons.inj split).1
      rw [here]
      rfl

theorem Looped.reauthed_iff (looped : Looped attempts remain i state reauthed sent)
    (clear : state.needsReauth = false) {before after : List Try} {t t' : Try}
    (split : sent.tries = before ++ t :: t' :: after) : t'.reauthed = true ↔
      state.auth401Retried = false ∧ (∀ u ∈ before, unauthorized u.attempt = false) ∧
        unauthorized t.attempt = true ∧ t.attempt.authResult.reAuth = true := by
  induction looped generalizing before with
  | declined => cases before <;> simp at split
  | stopped _ _ _ alone => rw [alone] at split; cases before <;> simp at split
  | @again remain i state reauthed u rest here asked _ _ loop ih =>
      obtain ⟨-, -, asks⟩ := attempted_asks here asked
      have paid := (unauthorized_allowance.pays asks (Bool.toNat_le _)).1
      cases before with
      | nil =>
          obtain ⟨rfl, tail⟩ := List.cons.inj split
          rw [loop.first_reauthed tail, prepareRetry_reauthed, asks_needsReauth asks clear]
          simp only [List.not_mem_nil, false_implies, implies_true, true_and]
          exact and_left_comm
      | cons v before =>
          obtain ⟨rfl, tail⟩ := List.cons.inj split
          rw [ih (by rw [prepareRetry_frame]) tail, prepareRetry_frame]
          simp only [List.forall_mem_cons, and_assoc]
          have same : u.verdict.state.auth401Retried = false ↔
              state.auth401Retried = false ∧ unauthorized u.attempt = false := by
            rw [unauthorized_allowance.written] at paid
            revert paid
            cases u.verdict.state.auth401Retried <;> cases state.auth401Retried <;>
              cases unauthorized u.attempt <;> simp
          simp only [same, and_assoc]

theorem Looped.sequence (looped : Looped attempts remain i state reauthed sent) (k : Nat) {t : Try}
    (found : sent.tries[k]? = some t) : t.attempt = attempts (i + k) := by
  induction looped generalizing k with
  | declined here =>
      cases k with
      | zero =>
          obtain rfl := Option.some.inj found
          rw [here]
          rfl
      | succ k => simp at found
  | stopped here _ _ alone =>
      rw [alone] at found
      cases k with
      | zero =>
          obtain rfl := Option.some.inj found
          rw [here]
          rfl
      | succ k => simp at found
  | again here _ _ _ _ ih =>
      cases k with
      | zero =>
          obtain rfl := Option.some.inj found
          rw [here]
          rfl
      | succ k =>
          rw [ih k (by simpa using found)]
          congr 1
          omega

end Loop

def World.reached (world : World) : Bool := world.admission.isNone && world.wrapping.isNone

theorem doRequest_tries (retryMax : Nat) (req : Request) (world : World) :
    (doRequest retryMax req world).tries =
      if World.reached world then (retryLoop world.attempts retryMax 0 (.new req) false).tries
      else [] := by
  unfold doRequest World.reached
  cases world.admission with
  | some err => rfl
  | none =>
      cases world.wrapping with
      | some err => rfl
      | none =>
          simp only [Option.isNone_none, Bool.and_self, ↓reduceIte]
          cases (retryLoop world.attempts retryMax 0 (.new req) false).result with
          | ok reply => rfl
          | error err =>
              dsimp only
              split_ifs <;> rfl

structure Restrained (retryMax : Nat) (req : Request) (world : World) (tries : List Try) :
    Prop where
  sequence : ∀ (k : Nat) (t : Try), tries[k]? = some t → t.attempt = world.attempts k
  attempts : tries.length ≤ retryMax + 1
  replies : (∀ t ∈ tries, answered t.attempt = true) → tries.length ≤ 6
  unauthorized : tries.dropLast.countP (fun t => unauthorized t.attempt) ≤ 1
  transient : tries.dropLast.countP (fun t => transient t.attempt) ≤ 3
  serverError : tries.dropLast.countP (fun t => serverError t.attempt) ≤ 1
  write : (req.method = methodPost ∨ req.method = methodPatch) → req.retrySafe = false →
    tries.length = if World.reached world then 1 else 0
  marked : req.retryUnsafe = true → tries.length ≤ 2 ∧
    ∀ t t', tries = [t, t'] → Retry.unauthorized t.attempt = true
  fresh : ∀ t rest, tries = t :: rest → t.reauthed = false
  reauthed : ∀ before t t' after, tries = before ++ t :: t' :: after → (t'.reauthed = true ↔
    (∀ u ∈ before, Retry.unauthorized u.attempt = false) ∧
      Retry.unauthorized t.attempt = true ∧ t.attempt.authResult.reAuth = true)

theorem restrained_nil (retryMax : Nat) (req : Request) {world : World}
    (turned : World.reached world = false) : Restrained retryMax req world [] where
  sequence := by simp
  attempts := by simp
  replies := by simp
  unauthorized := by simp
  transient := by simp
  serverError := by simp
  write := by simp [turned]
  marked := by simp
  fresh := by simp
  reauthed before t t' after split := by cases before <;> cases split

theorem Looped.restrained {retryMax : Nat} {req : Request} {world : World} {sent : Sent}
    (reached : World.reached world = true)
    (looped : Looped world.attempts retryMax 0 (.new req) false sent) :
    Restrained retryMax req world sent.tries where
  sequence k t found := by simpa using looped.sequence k found
  attempts := looped.length_le
  replies := looped.length_le_six ⟨rfl, rfl, rfl⟩
  unauthorized := looped.within unauthorized_allowance (Nat.zero_le _)
  transient := looped.within transient_allowance (Nat.zero_le _)
  serverError := looped.within serverError_allowance (Nat.zero_le _)
  write method plain := by
    have guard : guarded (.new req) = true := by simpa [guarded, RetryState.new, plain] using method
    rw [looped.guarded_once guard, if_pos reached]
  marked declared := by
    rcases looped.marked_twice declared with one | ⟨t, t', two, refused⟩
    · refine ⟨by omega, ?_⟩
      intro t t' two
      simp [two] at one
    · refine ⟨by simp [two], ?_⟩
      intro u u' same
      obtain rfl := (List.cons.inj (two.symm.trans same)).1
      exact refused
  fresh t rest split := looped.first_reauthed split
  reauthed before t t' after split := by simpa [RetryState.new] using looped.reauthed_iff rfl split

theorem retries_bounded (retryMax : Nat) (req : Request) (world : World) :
    Restrained retryMax req world (doRequest retryMax req world).tries := by
  rw [doRequest_tries]
  cases reached : World.reached world with
  | false => exact restrained_nil retryMax req reached
  | true => exact (retryLoop_looped world.attempts retryMax 0 (.new req) false).restrained reached

end BrokerMcp.Proof.Retry
