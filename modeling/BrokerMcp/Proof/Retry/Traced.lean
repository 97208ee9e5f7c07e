import BrokerMcp.Proof.Retry.Bounds
import BrokerMcp.Resilience.Spans

namespace BrokerMcp.Proof.Retry
open Resilience Resilience.Spans
open BrokerMcp.Observability.AttemptSpan (Span finishAttributes)

theorem transportRoundTrip_hop (labels : Labels) (method : String) (status : Option Nat)
    (s : Telemetry) : transportRoundTrip labels method true status s = s := rfl

def firstStatus (hops : List Nat) (outcome : Outcome) : Option Nat :=
  match hops with
  | [] => outcome.responseStatus?
  | hop :: _ => some hop

theorem clientDo_eq (labels : Labels) (method : String) (hops : List Nat) (outcome : Outcome)
    (s : Telemetry) : clientDo labels method hops outcome s =
      transportRoundTrip labels method false (firstStatus hops outcome) s := by
  have still : ∀ (rest : List (Option Nat)) (s : Telemetry),
      rest.foldl (fun s status => transportRoundTrip labels method true status s) s = s := by
    intro rest s
    simp only [transportRoundTrip_hop]
    exact List.foldl_fixed rest
  cases hops with
  | nil => rfl
  | cons hop hops => exact still _ _

def spanOf (labels : Labels) (retryMax : Nat) (t : Try) (number : Nat) : Span where
  attributes := finishAttributes number labels.correlationID
    t.attempt.outcome.responseStatus? t.verdict.retry
    (retriesExhausted retryMax number t.verdict.retry (allowanceSpent t.before t.attempt))
  ends := 1

def sampleOf (labels : Labels) (hops : List Nat) (t : Try) (number : Nat) : SEMPRequest :=
  sample labels t.before.method (firstStatus hops t.attempt.outcome) number

def samplesOf (labels : Labels) (hops : List Nat) (t : Try) (number : Nat) : List SEMPRequest :=
  if labels.metrics then [sampleOf labels hops t number] else []

theorem modify_last {α : Type} (xs : List α) (x : α) (f : α → α) :
    (xs ++ [x]).modify xs.length f = xs ++ [f x] := by
  induction xs with
  | nil => rfl
  | cons y xs ih => exact congrArg (y :: ·) ih

theorem traceTry_idle (labels : Labels) (retryMax : Nat) (hops : List Nat) (t : Try) (i : Nat)
    (started : List Span) (samples : List SEMPRequest) :
    traceTry labels retryMax hops t ⟨⟨⟨i, none⟩, started⟩, samples⟩ =
      ⟨⟨⟨i + 1, none⟩, started ++ [spanOf labels retryMax t (i + 1)]⟩,
        samples ++ samplesOf labels hops t (i + 1)⟩ := by
  rw [traceTry, clientDo_eq]
  cases on : labels.metrics with
  | false | true =>
      simp only [endAttemptSpan, transportRoundTrip, metricsRoundTrip,
        Observability.AttemptSpan.roundTrip, Observability.AttemptSpan.finish, Option.elim_some,
        attemptNumber, samplesOf, on, Bool.false_eq_true, Bool.not_true, Bool.not_false,
        Bool.or_true, Bool.or_self, Nat.add_one_ne_zero, modify_last, List.append_nil, ↓reduceIte]
      rfl

def spansFrom (labels : Labels) (retryMax : Nat) (i : Nat) (tries : List Try) :
    List Span :=
  tries.mapIdx fun k t => spanOf labels retryMax t (i + k + 1)

def samplesFrom (labels : Labels) (hops : Nat → List Nat) (i : Nat) (tries : List Try) :
    List SEMPRequest :=
  if labels.metrics then tries.mapIdx fun k t => sampleOf labels (hops (i + k)) t (i + k + 1)
  else []

theorem traceTries_idle (labels : Labels) (retryMax : Nat) (hops : Nat → List Nat) (i : Nat)
    (tries : List Try) (started : List Span) (samples : List SEMPRequest) :
    traceTries labels retryMax hops i tries ⟨⟨⟨i, none⟩, started⟩, samples⟩ =
      ⟨⟨⟨i + tries.length, none⟩, started ++ spansFrom labels retryMax i tries⟩,
        samples ++ samplesFrom labels hops i tries⟩ := by
  induction tries generalizing i started samples with
  | nil => simp [traceTries, spansFrom, samplesFrom]
  | cons t rest ih =>
      have shift : ∀ k, i + 1 + k = i + (k + 1) := by
        intro k
        omega
      rw [traceTries, traceTry_idle, ih]
      cases on : labels.metrics <;>
        simp [spansFrom, samplesFrom, samplesOf, on, List.mapIdx_cons, shift]

structure Sober (req : Request) (state : RetryState) : Prop where
  method : state.method = req.method
  guarded : guarded state = true → state.auth401Retried = false ∧ state.transientRetried = 0 ∧
    state.other5xxRetried = false
  marked : state.retryUnsafe = true → state.transientRetried = 0 ∧ state.other5xxRetried = false

theorem Sober.written {req : Request} {state : RetryState} (sober : Sober req state) (a : Attempt) :
    Sober req (written state a) := ⟨sober.method, sober.guarded, sober.marked⟩

theorem Sober.prepared {req : Request} {state : RetryState} (sober : Sober req state)
    (err : Option Chain) : Sober req (prepareRetry state err).1 := by
  rw [prepareRetry_frame]
  exact ⟨sober.method, sober.guarded, sober.marked⟩

theorem Sober.asked {req : Request} {state state' : RetryState} {a : Attempt}
    (sober : Sober req state) (free : Retry.guarded state = false) (asks : Asks state a state') :
    Sober req state' := by
  obtain ⟨b, frame⟩ := recovered_frame state
  cases asks with
  | transport => exact sober
  | unauthorized =>
      refine ⟨sober.method, ?_, sober.marked⟩
      intro guard
      exact absurd guard (by simpa [Retry.guarded] using free)
  | transient code status busy allowed | serverError code status error other allowed =>
      rw [frame]
      refine ⟨sober.method, ?_, ?_⟩
      · intro guard
        exact absurd guard (by simpa [Retry.guarded] using free)
      · intro marked
        cases allowed.symm.trans marked

def SpentBefore (earlier : List Try) (a : Attempt) : Prop :=
  (unauthorized a = true ∧ 1 ≤ earlier.countP fun t => unauthorized t.attempt) ∨
  (transient a = true ∧ maxTransientRetries ≤ earlier.countP fun t => transient t.attempt) ∨
  (serverError a = true ∧ 1 ≤ earlier.countP fun t => serverError t.attempt)

def spentFor (state : RetryState) (code : Nat) : Bool :=
  if code = 401 then state.auth401Retried
  else if state.retryUnsafe && retryableStatus code then false
  else if code = 429 ∨ code = 503 then state.transientRetried ≥ maxTransientRetries
  else if code ≥ 500 then state.other5xxRetried
  else false

theorem spentFor_iff {req : Request} {state : RetryState} (sober : Sober req state) {a : Attempt}
    {code : Nat} (status : a.outcome.status? = some code) : spentFor state code = true ↔
      (unauthorized a = true ∧ state.auth401Retried = true) ∨
        (transient a = true ∧ maxTransientRetries ≤ state.transientRetried) ∨
        (serverError a = true ∧ state.other5xxRetried = true) := by
  have unmarked : state.retryUnsafe = true → ¬ maxTransientRetries ≤ state.transientRetried ∧
      state.other5xxRetried = false := by
    intro marked
    obtain ⟨none, first⟩ := sober.marked marked
    exact ⟨by simp [none, maxTransientRetries], first⟩
  simp only [unauthorized, transient, serverError, status, Option.some.injEq, decide_eq_true_eq,
    Bool.or_eq_true, Option.any_some, Bool.and_eq_true]
  unfold spentFor
  split_ifs with refused gated busy error
  · subst refused
    simp
  · obtain ⟨room, first⟩ := unmarked (by simpa using (Bool.and_eq_true _ _ ▸ gated).1)
    simp [refused, room, first]
  · rcases busy with rfl | rfl <;> simp
  · have other : code ≠ 503 := fun same => busy (.inr same)
    simp [refused, error, other, not_or.mp busy]
  · simp [refused, error, not_or.mp busy]

theorem allowanceSpent_iff {req : Request} {state : RetryState} (sober : Sober req state)
    (a : Attempt) : allowanceSpent state a = true ↔ a.ctxErr = none ∧
      ((unauthorized a = true ∧ state.auth401Retried = true) ∨
        (transient a = true ∧ maxTransientRetries ≤ state.transientRetried) ∨
        (serverError a = true ∧ state.other5xxRetried = true)) := by
  cases live : a.ctxErr with
  | some err => simp [allowanceSpent, live]
  | none =>
      cases guard : guarded state with
      | true =>
          obtain ⟨first, second, third⟩ := sober.guarded guard
          unfold guarded at guard
          simp [allowanceSpent, live, guard, first, second, third, maxTransientRetries]
      | false =>
          unfold guarded at guard
          cases outcome : a.outcome with
          | failed resp err =>
              simp [allowanceSpent, live, guard, outcome, unauthorized, transient, serverError,
                Outcome.status?]
          | answered reply =>
              have status : a.outcome.status? = some reply.statusCode := by
                rw [outcome]
                rfl
              rw [← spentFor_iff sober status]
              simp only [allowanceSpent, live, guard, outcome, Option.isSome_none,
                Bool.false_eq_true, ↓reduceIte, true_and]
              rfl

section Loop

variable {attempts : Nat → Attempt} {remain i : Nat} {state : RetryState} {reauthed : Bool}
  {sent : Sent}

structure Placed (req : Request) (remain : Nat) (state : RetryState) (before : List Try) (t : Try)
    (after : List Try) : Prop where
  sober : Sober req t.before
  paid : ∀ {cause spent cap}, Allowance cause spent cap → spent state ≤ cap →
    spent t.before = spent state + before.countP fun t => cause t.attempt
  within : before.length ≤ remain
  followed : after ≠ [] → t.verdict.retry = true ∧ before.length < remain
  cut : after = [] → t.verdict.retry = true → before.length = remain ∨
    t.attempt.backoff.isSome = true ∨
      (prepareRetry t.verdict.state t.attempt.addAuth).2.2.isSome = true

theorem only_split {t u : Try} {before after : List Try} (split : [u] = before ++ t :: after) :
    before = [] ∧ t = u ∧ after = [] := by
  cases before with
  | nil =>
      obtain ⟨rfl, rest⟩ := List.cons.inj split
      exact ⟨rfl, rfl, rest.symm⟩
  | cons v before => simp at split

theorem Placed.first {req : Request} {t : Try} {after : List Try} {a : Attempt}
    (here : t = attempted state a reauthed) (sober : Sober req state)
    (followed : after ≠ [] → t.verdict.retry = true ∧ 0 < remain)
    (cut : after = [] → t.verdict.retry = true → 0 = remain ∨ t.attempt.backoff.isSome = true ∨
      (prepareRetry t.verdict.state t.attempt.addAuth).2.2.isSome = true) :
    Placed req remain state [] t after where
  sober := by
    rw [here]
    exact sober.written a
  paid allowance _ := by
    rw [here]
    exact allowance.written state a
  within := Nat.zero_le remain
  followed := followed
  cut := cut

theorem Placed.later {req : Request} {u t : Try} {before after : List Try} {a : Attempt}
    (here : u = attempted state a reauthed) (asked : u.verdict.retry = true)
    (placed : Placed req remain (prepareRetry u.verdict.state u.attempt.addAuth).1 before t after) :
    Placed req (remain + 1) state (u :: before) t after where
  sober := placed.sober
  paid allowance bounded := by
    obtain ⟨-, -, asks⟩ := attempted_asks here asked
    obtain ⟨pays, within⟩ := allowance.pays asks (by rwa [allowance.written])
    rw [allowance.written] at pays
    have later := placed.paid allowance (by rwa [allowance.prepared])
    rw [allowance.prepared] at later
    rw [Counting.countP_cons_toNat]
    omega
  within := Nat.succ_le_succ placed.within
  followed more := ⟨(placed.followed more).1, Nat.succ_lt_succ (placed.followed more).2⟩
  cut last retried := (placed.cut last retried).imp_left (congrArg Nat.succ)

theorem Looped.placed {req : Request} (looped : Looped attempts remain i state reauthed sent)
    (sober : Sober req state) {before after : List Try} {t : Try}
    (split : sent.tries = before ++ t :: after) : Placed req remain state before t after := by
  induction looped generalizing before with
  | declined here declined =>
      obtain ⟨rfl, rfl, rfl⟩ := only_split split
      refine .first here sober (absurd rfl) ?_
      intro _ asked
      cases declined.symm.trans asked
  | stopped here asked stuck alone =>
      obtain ⟨rfl, rfl, rfl⟩ := only_split (alone.symm.trans split)
      refine .first here sober (absurd rfl) ?_
      intro _ _
      exact stuck.imp_left Eq.symm
  | @again remain i state reauthed u rest here asked waited prepared loop ih =>
      obtain ⟨-, free, asks⟩ := attempted_asks here asked
      cases before with
      | nil =>
          obtain ⟨rfl, rfl⟩ := List.cons.inj split
          refine .first here sober ?_ ?_
          · intro _
            exact ⟨asked, Nat.succ_pos remain⟩
          · intro last
            exact absurd last loop.nonempty
      | cons v before =>
          obtain ⟨rfl, tail⟩ := List.cons.inj split
          have next := (sober.written u.attempt).asked free asks
          exact (ih (next.prepared u.attempt.addAuth) tail).later here asked

end Loop

theorem sober_new (req : Request) : Sober req (.new req) := by
  refine ⟨rfl, ?_, ?_⟩
  · intro _
    exact ⟨rfl, rfl, rfl⟩
  · intro _
    exact ⟨rfl, rfl⟩

theorem doRequest_placed {retryMax : Nat} {req : Request} {world : World} {k : Nat} {t : Try}
    (found : (doRequest retryMax req world).tries[k]? = some t) :
    Placed req retryMax (.new req) ((doRequest retryMax req world).tries.take k) t
      ((doRequest retryMax req world).tries.drop (k + 1)) := by
  obtain ⟨short, here⟩ := List.getElem?_eq_some_iff.mp found
  have split : (doRequest retryMax req world).tries =
      (doRequest retryMax req world).tries.take k ++ t ::
        (doRequest retryMax req world).tries.drop (k + 1) := by
    rw [← here, List.getElem_cons_drop, List.take_append_drop]
  rw [doRequest_tries] at split found ⊢
  cases reached : World.reached world with
  | false => simp [reached] at found
  | true =>
      simp only [reached, ↓reduceIte] at split ⊢
      exact (retryLoop_looped world.attempts retryMax 0 (.new req) false).placed (sober_new req)
        split

theorem doTraced_eq (labels : Labels) (retryMax : Nat) (hops : Nat → List Nat) (req : Request)
    (world : World) : ∀ tries, tries = (doRequest retryMax req world).tries →
      doTraced labels retryMax hops req world =
        ⟨⟨⟨tries.length, none⟩, spansFrom labels retryMax 0 tries⟩,
          samplesFrom labels hops 0 tries⟩ := by
  rintro tries rfl
  unfold doTraced
  rw [show Telemetry.fresh = ⟨⟨⟨0, none⟩, []⟩, []⟩ from rfl, traceTries_idle]
  simp [Observability.AttemptSpan.closeDangling]

structure Recorded (labels : Labels) (retryMax : Nat) (hops : Nat → List Nat) (method : String)
    (tries : List Try) (s : Telemetry) : Prop where
  nothingParked : s.traced.state = ⟨tries.length, none⟩
  spans : s.traced.started.length = tries.length
  span : ∀ (k : Nat) (t : Try), tries[k]? = some t →
    s.traced.started[k]? = some (spanOf labels retryMax t (k + 1))
  samples : s.samples.length = if labels.metrics then tries.length else 0
  sample : labels.metrics = true → ∀ (k : Nat) (t : Try), tries[k]? = some t →
    s.samples[k]? = some
      (Spans.sample labels method (firstStatus (hops k) t.attempt.outcome) (k + 1))

theorem attempts_recorded (labels : Labels) (retryMax : Nat) (hops : Nat → List Nat) (req : Request)
    (world : World) : Recorded labels retryMax hops req.method (doRequest retryMax req world).tries
      (doTraced labels retryMax hops req world) := by
  rw [doTraced_eq labels retryMax hops req world _ rfl]
  refine ⟨rfl, by simp [spansFrom], ?_, ?_, ?_⟩
  · intro k t found
    simp [spansFrom, List.getElem?_mapIdx, found]
  · cases on : labels.metrics <;> simp [samplesFrom, on]
  · intro on k t found
    have method := (doRequest_placed found).sober.method
    simp [samplesFrom, on, List.getElem?_mapIdx, found, sampleOf, method]

structure Told (retryMax : Nat) (tries : List Try) (spans : List Span) : Prop where
  exhausted : ∀ (k : Nat) (t : Try) (span : Span), tries[k]? = some t →
    spans[k]? = some span → (.retryExhausted ∈ span.attributes ↔ k + 1 = tries.length ∧
      ((t.verdict.retry = true ∧ k = retryMax) ∨
        (t.verdict.retry = false ∧ t.attempt.ctxErr = none ∧ SpentBefore (tries.take k) t.attempt)))
  followed : ∀ (k : Nat) (span : Span), spans[k]? = some span → k + 1 < spans.length →
    .retryDecision true ∈ span.attributes ∧ .retryExhausted ∉ span.attributes
  cut : ∀ (k : Nat) (t : Try) (span : Span), tries[k]? = some t →
    spans[k]? = some span → .retryDecision true ∈ span.attributes →
      .retryExhausted ∉ span.attributes → k + 1 < spans.length ∨
        t.attempt.backoff.isSome = true ∨
          (t.verdict.state.needsReauth = true ∧ t.attempt.addAuth.isSome = true)

theorem mem_finishAttributes_exhausted (number : Nat) (id : String) (status : Option Nat)
    (retry exhausted : Bool) :
    .retryExhausted ∈ finishAttributes number id status retry exhausted ↔
      exhausted = true := by
  unfold finishAttributes
  by_cases named : id = "" <;> cases exhausted <;> simp [named]

theorem mem_finishAttributes_decision (number : Nat) (id : String) (status : Option Nat)
    (retry exhausted decision : Bool) :
    .retryDecision decision ∈ finishAttributes number id status retry exhausted ↔
      decision = retry := by
  unfold finishAttributes
  by_cases named : id = "" <;> cases exhausted <;> simp [named]

theorem Placed.spent {req : Request} {retryMax : Nat} {before after : List Try} {t : Try}
    (placed : Placed req retryMax (.new req) before t after) :
    allowanceSpent t.before t.attempt = true ↔
      t.attempt.ctxErr = none ∧ SpentBefore before t.attempt := by
  have first := placed.paid unauthorized_allowance (Nat.zero_le 1)
  have second := placed.paid transient_allowance (Nat.zero_le _)
  have third := placed.paid serverError_allowance (Nat.zero_le 1)
  have flag : ∀ b : Bool, b = true ↔ 1 ≤ b.toNat := by decide
  rw [allowanceSpent_iff placed.sober, SpentBefore, flag t.before.auth401Retried,
    flag t.before.other5xxRetried, first, second, third]
  simp [RetryState.new]

structure Standing (retryMax : Nat) (tries : List Try) (k : Nat) (t : Try) : Prop where
  within : k ≤ retryMax
  followed : k + 1 < tries.length → t.verdict.retry = true ∧ k < retryMax
  cut : k + 1 = tries.length → t.verdict.retry = true → k = retryMax ∨
    t.attempt.backoff.isSome = true ∨
      (t.verdict.state.needsReauth = true ∧ t.attempt.addAuth.isSome = true)
  spent : allowanceSpent t.before t.attempt = true ↔
    t.attempt.ctxErr = none ∧ SpentBefore (tries.take k) t.attempt

theorem doRequest_standing {retryMax : Nat} {req : Request} {world : World} {k : Nat} {t : Try}
    (found : (doRequest retryMax req world).tries[k]? = some t) :
    Standing retryMax (doRequest retryMax req world).tries k t := by
  have placed := doRequest_placed found
  obtain ⟨short, -⟩ := List.getElem?_eq_some_iff.mp found
  have size : ((doRequest retryMax req world).tries.take k).length = k := by
    rw [List.length_take]
    omega
  refine ⟨?_, ?_, ?_, placed.spent⟩
  · simpa only [size] using placed.within
  · intro more
    have rest : (doRequest retryMax req world).tries.drop (k + 1) ≠ [] := by
      rw [Ne, List.drop_eq_nil_iff]
      omega
    simpa only [size] using placed.followed rest
  · intro last asked
    have rest : (doRequest retryMax req world).tries.drop (k + 1) = [] := by
      rw [List.drop_eq_nil_iff]
      omega
    simpa only [size, prepareRetry_fails_iff] using placed.cut rest asked

theorem Standing.exhausted_iff {retryMax : Nat} {tries : List Try} {k : Nat} {t : Try}
    (standing : Standing retryMax tries k t) (short : k < tries.length) :
    retriesExhausted retryMax (k + 1) t.verdict.retry (allowanceSpent t.before t.attempt) = true ↔
      k + 1 = tries.length ∧ ((t.verdict.retry = true ∧ k = retryMax) ∨
        (t.verdict.retry = false ∧ t.attempt.ctxErr = none ∧
          SpentBefore (tries.take k) t.attempt)) := by
  have within := standing.within
  have last : t.verdict.retry = false ∨ k = retryMax → k + 1 = tries.length := by
    intro ended
    by_contra more
    obtain ⟨asked, room⟩ := standing.followed (by omega)
    rcases ended with declined | full
    · cases declined.symm.trans asked
    · omega
  cases asked : t.verdict.retry with
  | true =>
      simp only [retriesExhausted, decide_eq_true_eq, ↓reduceIte, true_and, Bool.true_eq_false,
        false_and, or_false]
      constructor
      · intro full
        have here : k = retryMax := by omega
        exact ⟨last (.inr here), here⟩
      · rintro ⟨-, rfl⟩
        exact Nat.lt_succ_self k
  | false =>
      simp only [retriesExhausted, standing.spent, Bool.false_eq_true, ↓reduceIte, false_and,
        false_or, true_and]
      exact (and_iff_right (last (.inl asked))).symm

theorem exhaustion_told (labels : Labels) (retryMax : Nat) (hops : Nat → List Nat) (req : Request)
    (world : World) : Told retryMax (doRequest retryMax req world).tries
      (doTraced labels retryMax hops req world).traced.started := by
  have recorded := attempts_recorded labels retryMax hops req world
  have same : ∀ {k : Nat} {t : Try} {span : Span},
      (doRequest retryMax req world).tries[k]? = some t →
      (doTraced labels retryMax hops req world).traced.started[k]? = some span →
      span = spanOf labels retryMax t (k + 1) := by
    intro k t span found there
    exact Option.some.inj (there.symm.trans (recorded.span k t found))
  refine ⟨?_, ?_, ?_⟩
  · intro k t span found there
    obtain ⟨short, -⟩ := List.getElem?_eq_some_iff.mp found
    rw [same found there, spanOf, mem_finishAttributes_exhausted]
    exact (doRequest_standing found).exhausted_iff short
  · intro k span there more
    obtain ⟨short, -⟩ := List.getElem?_eq_some_iff.mp there
    rw [recorded.spans] at short more
    have found := List.getElem?_eq_getElem short
    have standing := doRequest_standing found
    rw [same found there, spanOf, mem_finishAttributes_decision, mem_finishAttributes_exhausted,
      standing.exhausted_iff short]
    refine ⟨(standing.followed more).1.symm, ?_⟩
    rintro ⟨last, -⟩
    omega
  · intro k t span found there asked room
    obtain ⟨short, -⟩ := List.getElem?_eq_some_iff.mp found
    have standing := doRequest_standing found
    rw [same found there, spanOf] at asked room
    rw [mem_finishAttributes_decision] at asked
    rw [mem_finishAttributes_exhausted, standing.exhausted_iff short] at room
    rw [recorded.spans]
    by_cases last : k + 1 = (doRequest retryMax req world).tries.length
    · rcases standing.cut last asked.symm with full | stopped
      · exact absurd ⟨last, .inl ⟨asked.symm, full⟩⟩ room
      · exact .inr stopped
    · exact .inl (by omega)

end BrokerMcp.Proof.Retry
