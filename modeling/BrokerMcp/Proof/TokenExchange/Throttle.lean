import BrokerMcp.TokenExchange.Exchange

namespace BrokerMcp.Proof.TokenExchange
open BrokerMcp.TokenExchange

def IsThrottle (answer : Answer) : Prop :=
  ∃ resp body, answer = .replied resp ∧ resp.statusCode = 429 ∧ resp.body = .ok body

def Throttled (received : List Receipt) : Prop := ∀ receipt ∈ received, IsThrottle receipt.answer

def lastCheck (script : Nat → Attempt) : Nat → Nat → Int → Int
  | 0, i, now => ((script i).receipt now).checked
  | remain + 1, i, now =>
      lastCheck script remain (i + 1) (((script i).receipt now).checked + (script i).wait)

theorem receipt_checked (a : Attempt) (now : Int) :
    (a.receipt now).checked = (a.receipt now).time + a.checked := rfl

theorem le_receipt_time (a : Attempt) (now : Int) : now ≤ (a.receipt now).time := by
  simp only [Attempt.receipt]
  omega

theorem receipt_time_le (a : Attempt) (now : Int) : (a.receipt now).time ≤ (a.receipt now).checked := by
  rw [receipt_checked]
  omega

theorem le_lastCheck (script : Nat → Attempt) (remain i : Nat) (now : Int) :
    ((script i).receipt now).checked ≤ lastCheck script remain i now := by
  induction remain generalizing i now with
  | zero => exact Int.le_refl _
  | succ remain ih =>
      have later := ih (i + 1) (((script i).receipt now).checked + (script i).wait)
      have sent := le_receipt_time (script (i + 1)) (((script i).receipt now).checked +
        (script i).wait)
      rw [receipt_checked] at later
      rw [lastCheck]
      omega

theorem checkRetry_throttle {answer : Answer} (throttle : IsThrottle answer) :
    checkRetry false answer = (true, none) := by
  obtain ⟨resp, body, rfl, status, -⟩ := throttle
  simp [checkRetry, status]

section send

variable {deadline now : Int} {a : Attempt}

theorem send_throttle (throttle : IsThrottle a.answer) (early : (a.receipt now).checked < deadline) :
    send deadline a now =
      (⟨1, [a.receipt now], (a.receipt now).checked, a.answer.result⟩, true) := by
  have answered : ¬ deadline ≤ (a.receipt now).time :=
    Int.not_le.mpr (Int.lt_of_le_of_lt (receipt_time_le a now) early)
  simp only [send, answered, if_false, decide_eq_false (Int.not_le.mpr early),
    checkRetry_throttle throttle]

theorem send_late (late : deadline ≤ (a.receipt now).checked) :
    (send deadline a now).1.result = .error .context ∧ (send deadline a now).2 = false ∧
      (send deadline a now).1.attempts = 1 := by
  unfold send
  by_cases answered : deadline ≤ (a.receipt now).time
  · simp [answered]
  · simp [answered, late, checkRetry]

theorem send_received (answered : (a.receipt now).time < deadline) :
    (send deadline a now).1.received = [a.receipt now] := by
  unfold send
  rw [if_neg (Int.not_le.mpr answered)]
  split <;> rfl

theorem answer_of_send {receipt : Receipt} (member : receipt ∈ (send deadline a now).1.received) :
    receipt.answer = a.answer := by
  by_cases answered : (a.receipt now).time < deadline
  · rw [send_received answered, List.mem_singleton] at member
    rw [member]
    rfl
  · rw [send, if_pos (Int.not_lt.mp answered)] at member
    exact absurd member List.not_mem_nil

end send

section chain

variable {deadline now : Int} {script : Nat → Attempt} {remain i : Nat}

theorem retryLoop_received (remain : Nat) (answered : ((script i).receipt now).time < deadline) :
    ∃ rest, (retryLoop deadline script remain i now).received = (script i).receipt now :: rest := by
  cases remain with
  | zero => exact ⟨[], send_received answered⟩
  | succ remain =>
      simp only [retryLoop]
      split
      · exact ⟨[], send_received answered⟩
      · split
        · exact ⟨[], send_received answered⟩
        · exact ⟨_, rfl⟩

theorem throttle_of_throttled
    (throttled : Throttled (retryLoop deadline script remain i now).received)
    (early : ((script i).receipt now).checked < deadline) : IsThrottle (script i).answer := by
  have answered := Int.lt_of_le_of_lt (receipt_time_le (script i) now) early
  obtain ⟨rest, received⟩ := retryLoop_received remain answered
  exact throttled ((script i).receipt now) (by simp [received])

theorem answer_of_received {receipt : Receipt}
    (member : receipt ∈ (retryLoop deadline script remain i now).received) :
    ∃ j, receipt.answer = (script j).answer := by
  induction remain generalizing i now with
  | zero => exact ⟨i, answer_of_send member⟩
  | succ remain ih =>
      simp only [retryLoop] at member
      split at member
      · exact ⟨i, answer_of_send member⟩
      · split at member
        · exact ⟨i, answer_of_send member⟩
        · obtain rfl | later := List.mem_cons.mp member
          · exact ⟨i, rfl⟩
          · exact ih later

theorem retryLoop_next (throttle : IsThrottle (script i).answer)
    (early : ((script i).receipt now).checked + (script i).wait < deadline) :
    retryLoop deadline script (remain + 1) i now = Chained.after ((script i).receipt now)
      (retryLoop deadline script remain (i + 1)
        (((script i).receipt now).checked + (script i).wait)) := by
  have checked : ((script i).receipt now).checked < deadline := by omega
  simp only [retryLoop, send_throttle throttle checked, Int.not_le.mpr early, if_false,
    Bool.not_true, Bool.false_eq_true]

theorem resumed_le_lastCheck (script : Nat → Attempt) (remain i : Nat) (now : Int) :
    ((script i).receipt now).checked + (script i).wait ≤ lastCheck script (remain + 1) i now := by
  have later := le_lastCheck script remain (i + 1)
    (((script i).receipt now).checked + (script i).wait)
  have sent := le_receipt_time (script (i + 1)) (((script i).receipt now).checked + (script i).wait)
  rw [receipt_checked] at later
  rw [lastCheck]
  omega

theorem retryLoop_by_count (throttled : Throttled (retryLoop deadline script remain i now).received)
    (fits : lastCheck script remain i now < deadline) :
    ∃ receipt, (retryLoop deadline script remain i now).received.getLast? = some receipt ∧
      IsThrottle receipt.answer ∧ receipt.time ≤ receipt.checked ∧
      (retryLoop deadline script remain i now).result = receipt.answer.result ∧
      (retryLoop deadline script remain i now).ended = receipt.checked ∧
      1 ≤ (retryLoop deadline script remain i now).attempts := by
  induction remain generalizing i now with
  | zero =>
      have throttle := throttle_of_throttled throttled fits
      rw [retryLoop, send_throttle throttle fits]
      exact ⟨(script i).receipt now, rfl, throttle, receipt_time_le _ _, rfl, rfl, Nat.le_refl 1⟩
  | succ remain ih =>
      have checked := Int.lt_of_le_of_lt (le_lastCheck script (remain + 1) i now) fits
      have resumed := Int.lt_of_le_of_lt (resumed_le_lastCheck script remain i now) fits
      have first := throttle_of_throttled throttled checked
      rw [retryLoop_next first resumed] at throttled ⊢
      have rest : Throttled (retryLoop deadline script remain (i + 1)
          (((script i).receipt now).checked + (script i).wait)).received :=
        fun receipt member => throttled receipt (List.mem_cons_of_mem _ member)
      obtain ⟨receipt, last, throttle, ordered, result, ended, -⟩ := ih rest fits
      refine ⟨receipt, ?_, throttle, ordered, result, ended, Nat.le_add_left 1 _⟩
      simp only [Chained.after]
      rw [List.getLast?_cons, last]
      rfl

theorem retryLoop_by_deadline
    (throttled : Throttled (retryLoop deadline script remain i now).received)
    (late : deadline ≤ lastCheck script remain i now) :
    (retryLoop deadline script remain i now).result = .error .context ∧
      1 ≤ (retryLoop deadline script remain i now).attempts := by
  induction remain generalizing i now with
  | zero =>
      obtain ⟨result, -, attempts⟩ := send_late late
      rw [retryLoop]
      exact ⟨result, Nat.le_of_eq attempts.symm⟩
  | succ remain ih =>
      by_cases checked : ((script i).receipt now).checked < deadline
      · have throttle := throttle_of_throttled throttled checked
        by_cases resumed : ((script i).receipt now).checked + (script i).wait < deadline
        · rw [retryLoop_next throttle resumed] at throttled ⊢
          have rest : Throttled (retryLoop deadline script remain (i + 1)
              (((script i).receipt now).checked + (script i).wait)).received :=
            fun receipt member => throttled receipt (List.mem_cons_of_mem _ member)
          obtain ⟨result, -⟩ := ih rest late
          exact ⟨result, Nat.le_add_left 1 _⟩
        · simp only [retryLoop, send_throttle throttle checked, Int.not_lt.mp resumed, if_true,
            Bool.not_true, Bool.false_eq_true, if_false]
          exact ⟨trivial, Nat.le_refl 1⟩
      · obtain ⟨result, retry, attempts⟩ := send_late (Int.not_lt.mp checked)
        simp only [retryLoop, retry, Bool.not_false, if_true]
        exact ⟨result, Nat.le_of_eq attempts.symm⟩

end chain

theorem le_swapMax (newUntil : Int) (rivals : List Int) (cur : Int) :
    newUntil ≤ swapMax newUntil rivals cur := by
  induction rivals generalizing cur with
  | nil =>
      simp only [swapMax]
      split <;> omega
  | cons rival rivals ih =>
      simp only [swapMax]
      split
      · assumption
      · exact ih rival

theorem clampRetryAfter_eq_min (e : Exchanger) (delay : Int) :
    clampRetryAfter e delay = min delay e.ceiling := by
  simp only [clampRetryAfter]
  split <;> omega

theorem ceiling_pos (e : Exchanger) : 0 < e.ceiling := by
  simp only [Exchanger.ceiling]
  split
  · decide
  · omega

theorem le_raiseGate (e : Exchanger) {delay : Int} (now : Int) (rivals : List Int)
    (gatedUntil : Int) (positive : 0 < delay) :
    now + min delay e.ceiling ≤
      raiseGate (clampRetryAfter e delay) now rivals gatedUntil := by
  have clamped : 0 < clampRetryAfter e delay := by
    have ceiling := ceiling_pos e
    rw [clampRetryAfter_eq_min]
    omega
  rw [raiseGate, if_neg (Int.not_le.mpr clamped), ← clampRetryAfter_eq_min]
  exact le_swapMax _ _ _

def throttleError (result : RetryAfterResult) : ExchangeError where
  sentinel := .errExchangeTransport
  message := "token exchange transport failure: IdP returned HTTP 429 (rate limited)"
  httpStatus := 429
  failureClass := .rateLimited
  retryAfterResult := some result

theorem parseIdPResponse_throttle (e : Exchanger) (format : Format) {resp : Response} (now : Int)
    (throttle : IsThrottle (.replied resp)) :
    parseIdPResponse e format resp now =
      .error (throttleError (parseRetryAfter format resp.retryAfter now)) := by
  obtain ⟨_, body, ⟨⟩, status, read⟩ := throttle
  simp [parseIdPResponse, read, status, throttleError]

theorem classifyRetryOutcome_throttle {attempts : Nat} (tried : 1 ≤ attempts)
    (result : RetryAfterResult) :
    ∃ err, classifyRetryOutcome attempts (.exchange (throttleError result)) = .exchange err ∧
      err.sentinel = .errExchangeRetriesExhausted ∧ err.failureClass = .rateLimited ∧
      err.retryAfterResult = some result := by
  refine ⟨retriesExhausted attempts (.exchange (throttleError result)), ?_, rfl, rfl, rfl⟩
  rw [classifyRetryOutcome, if_neg (Nat.not_lt.mpr tried)]
  rfl

theorem classifyRetryOutcome_deadline {attempts : Nat} (tried : 1 ≤ attempts) :
    ∃ err, classifyRetryOutcome attempts (.context .deadlineExceeded) = .exchange err ∧
      err.sentinel = .errExchangeRetriesExhausted ∧ err.failureClass = .network := by
  refine ⟨retriesExhausted attempts (.context .deadlineExceeded), ?_, rfl, rfl⟩
  rw [classifyRetryOutcome, if_neg (Nat.not_lt.mpr tried)]
  rfl

theorem isBreakerExcluded_throttle {err : ExchangeError} (throttle : err.failureClass = .rateLimited) :
    isBreakerExcluded (some (.exchange err)) = true := by
  simp [isBreakerExcluded, failureClassOf, Err.exchange?, throttle]

theorem isBreakerExcluded_network {err : ExchangeError}
    (exhausted : err.sentinel = .errExchangeRetriesExhausted) (network : err.failureClass = .network) :
    isBreakerExcluded (some (.exchange err)) = false := by
  simp [isBreakerExcluded, failureClassOf, Err.exchange?, Err.wraps, exhausted, network]

theorem raiseGate_throttle (e : Exchanger) {err : ExchangeError} {result : RetryAfterResult}
    (now : Int) (rivals : List Int) (gatedUntil : Int)
    (exhausted : err.sentinel = .errExchangeRetriesExhausted)
    (throttle : err.failureClass = .rateLimited) (header : err.retryAfterResult = some result)
    (ok : result.ok = true) :
    raiseGateOnExhaustedRateLimit e (.exchange err) now rivals gatedUntil =
      raiseGate (clampRetryAfter e result.delay) now rivals gatedUntil := by
  simp [raiseGateOnExhaustedRateLimit, Err.exchange?, exhausted, throttle, header, ok]

section exchange

variable {β : Type} (lib : Gobreaker β) (e : Exchanger) (format : Format) (idp : Idp)
  (breaker : Breaker β) (gatedUntil : Int)

def errorOf : Except Err Token → Option Err
  | .error err => some err
  | .ok _ => none

/-- The outcome is excluded at the breaker, and the gate is held for as long as the last reply asks,
up to the ceiling. The header of the last reply is read when the attempts are over. -/
structure Paced : Prop where
  excluded : isBreakerExcluded
    (errorOf (runExchangeOnce lib e format idp breaker gatedUntil).result) = true
  successes : lib.successes (runExchangeOnce lib e format idp breaker gatedUntil).breaker.counts =
    lib.successes breaker.counts
  failures : lib.failures (runExchangeOnce lib e format idp breaker gatedUntil).breaker.counts =
    lib.failures breaker.counts
  consecutive :
    (runExchangeOnce lib e format idp breaker gatedUntil).breaker.consecutiveFailures =
      breaker.consecutiveFailures
  gated : ∀ receipt resp result,
    (doExchange e format idp).received.getLast? = some receipt → receipt.answer = .replied resp →
    parseRetryAfter format resp.retryAfter ((doExchange e format idp).ended + idp.parseLag) =
      result → result.ok = true → 0 < result.delay →
    receipt.time + min result.delay e.ceiling ≤
      (runExchangeOnce lib e format idp breaker gatedUntil).gatedUntil

variable {lib e format idp breaker gatedUntil}

theorem runExchangeOnce_error {err : Err} (failed : (doExchange e format idp).result = .error err) :
    runExchangeOnce lib e format idp breaker gatedUntil =
      ⟨breaker.record lib (some (classifyRetryOutcome (doExchange e format idp).attempts err)),
        raiseGateOnExhaustedRateLimit e
          (classifyRetryOutcome (doExchange e format idp).attempts err)
          ((doExchange e format idp).ended + idp.parseLag + idp.raiseLag) idp.rivals gatedUntil,
        .error (classifyRetryOutcome (doExchange e format idp).attempts err)⟩ := by
  simp only [runExchangeOnce, failed]

theorem record_excluded (neutral : lib.Neutral) (breaker : Breaker β) {err : Err}
    (excluded : isBreakerExcluded (some err) = true) :
    lib.successes (breaker.record lib (some err)).counts = lib.successes breaker.counts ∧
      lib.failures (breaker.record lib (some err)).counts = lib.failures breaker.counts ∧
      (breaker.record lib (some err)).consecutiveFailures = breaker.consecutiveFailures := by
  rw [Breaker.record, if_pos excluded]
  exact ⟨(neutral breaker.counts).1, (neutral breaker.counts).2, rfl⟩

theorem paced_of_excluded (neutral : lib.Neutral) {err : Err}
    (failed : (doExchange e format idp).result = .error err)
    (excluded : isBreakerExcluded
      (some (classifyRetryOutcome (doExchange e format idp).attempts err)) = true)
    (gated : ∀ receipt resp result,
      (doExchange e format idp).received.getLast? = some receipt → receipt.answer = .replied resp →
      parseRetryAfter format resp.retryAfter ((doExchange e format idp).ended + idp.parseLag) =
        result → result.ok = true → 0 < result.delay →
      receipt.time + min result.delay e.ceiling ≤ raiseGateOnExhaustedRateLimit e
        (classifyRetryOutcome (doExchange e format idp).attempts err)
        ((doExchange e format idp).ended + idp.parseLag + idp.raiseLag) idp.rivals gatedUntil) :
    Paced lib e format idp breaker gatedUntil := by
  obtain ⟨successes, failures, consecutive⟩ := record_excluded neutral breaker excluded
  constructor
  all_goals rw [runExchangeOnce_error failed]
  · exact excluded
  · exact successes
  · exact failures
  · exact consecutive
  · exact gated

theorem paced_of_build_failure (neutral : lib.Neutral) (failed : idp.build.isSome) :
    Paced lib e format idp breaker gatedUntil := by
  obtain ⟨text, failed⟩ := Option.isSome_iff_exists.mp failed
  have done : doExchange e format idp = ⟨0, [], idp.start, .error (.exchange
      { sentinel := .errExchangeRequestBuild
        message := "token exchange request build failure: " ++ text })⟩ := by
    simp only [doExchange, failed]
  apply paced_of_excluded neutral (congrArg Exchanged.result done)
  · rw [done]
    rfl
  · rw [done]
    simp

theorem doExchange_chain (built : idp.build = none) :
    doExchange e format idp =
      ⟨(chain e idp).attempts, (chain e idp).received, (chain e idp).ended,
        readResult e format idp (chain e idp)⟩ := by
  simp only [doExchange, built]

variable (e format idp) in
structure ExhaustedBy (result : RetryAfterResult) (err : ExchangeError) : Prop where
  failed : ∃ inner, (doExchange e format idp).result = .error inner ∧
    classifyRetryOutcome (doExchange e format idp).attempts inner = .exchange err
  exhausted : err.sentinel = .errExchangeRetriesExhausted
  throttle : err.failureClass = .rateLimited
  header : err.retryAfterResult = some result

theorem exhausted_of_count (built : idp.build = none)
    (throttled : Throttled (chain e idp).received)
    (fits : lastCheck idp.script e.maxRetries 0 idp.start < e.deadline idp) :
    ∃ receipt resp err, (doExchange e format idp).received.getLast? = some receipt ∧
      receipt.answer = .replied resp ∧ receipt.time ≤ (doExchange e format idp).ended ∧
      ExhaustedBy e format idp
        (parseRetryAfter format resp.retryAfter ((doExchange e format idp).ended + idp.parseLag))
        err := by
  obtain ⟨receipt, last, throttle, ordered, result, ended, tried⟩ :=
    retryLoop_by_count throttled fits
  obtain ⟨resp, body, answer, status, read⟩ := id throttle
  rw [answer] at throttle result
  have reply : (chain e idp).result = .ok resp := result
  obtain ⟨err, classified, exhausted, rateLimited, header⟩ := classifyRetryOutcome_throttle tried
    (parseRetryAfter format resp.retryAfter ((chain e idp).ended + idp.parseLag))
  rw [doExchange_chain built]
  refine ⟨receipt, resp, err, last, answer, ordered.trans ended.ge, ?_, exhausted, rateLimited, header⟩
  refine ⟨.exchange (throttleError
    (parseRetryAfter format resp.retryAfter ((chain e idp).ended + idp.parseLag))), ?_, ?_⟩
  · rw [doExchange_chain built]
    simp only [readResult, reply, parseIdPResponse_throttle e format _ throttle]
  · rw [doExchange_chain built]
    exact classified

theorem paced_of_count (neutral : lib.Neutral) (built : idp.build = none)
    (throttled : Throttled (chain e idp).received)
    (fits : lastCheck idp.script e.maxRetries 0 idp.start < e.deadline idp) :
    Paced lib e format idp breaker gatedUntil := by
  obtain ⟨receipt, resp, err, last, answer, ordered, spent⟩ := exhausted_of_count built throttled fits
  obtain ⟨inner, failed, outcome⟩ := spent.failed
  apply paced_of_excluded neutral failed
  · rw [outcome]
    exact isBreakerExcluded_throttle spent.throttle
  · rw [outcome]
    intro final reply' parsed isFinal answered reading ok positive
    obtain rfl : receipt = final := Option.some.inj (last.symm.trans isFinal)
    obtain rfl : resp = reply' := by simpa [answer] using answered
    rw [raiseGate_throttle e _ _ _ spent.exhausted spent.throttle
      (spent.header.trans (congrArg some reading)) ok]
    have later : receipt.time ≤ (doExchange e format idp).ended + idp.parseLag + idp.raiseLag := by
      omega
    exact Int.le_trans (Int.add_le_add_right later _)
      (le_raiseGate e _ idp.rivals gatedUntil positive)

theorem not_paced_of_deadline (built : idp.build = none)
    (throttled : Throttled (chain e idp).received)
    (late : e.deadline idp ≤ lastCheck idp.script e.maxRetries 0 idp.start) :
    ¬ Paced lib e format idp breaker gatedUntil := by
  intro paced
  obtain ⟨context, tried⟩ := retryLoop_by_deadline throttled late
  obtain ⟨err, classified, exhausted, network⟩ := classifyRetryOutcome_deadline tried
  have context : (chain e idp).result = .error .context := context
  have failed : (doExchange e format idp).result = .error (.context .deadlineExceeded) := by
    rw [doExchange_chain built]
    simp only [readResult, context]
  have excluded := paced.excluded
  have attempts : (doExchange e format idp).attempts = (chain e idp).attempts := by
    rw [doExchange_chain built]
  rw [runExchangeOnce_error failed, attempts] at excluded
  rw [show classifyRetryOutcome (chain e idp).attempts (.context .deadlineExceeded) = .exchange err
    from classified] at excluded
  rw [errorOf, isBreakerExcluded_network exhausted network] at excluded
  exact Bool.false_ne_true excluded

end exchange

/-- A throttled provider is paced exactly when the chain of attempts ends by count, that is when the
check of its last attempt comes before the deadline. -/
theorem throttled_paced_iff {β : Type} (lib : Gobreaker β) (e : Exchanger) (format : Format)
    (idp : Idp) (breaker : Breaker β) (gatedUntil : Int) (neutral : lib.Neutral)
    (throttled : Throttled (doExchange e format idp).received) :
    Paced lib e format idp breaker gatedUntil ↔
      idp.build.isSome ∨ lastCheck idp.script e.maxRetries 0 idp.start < e.deadline idp := by
  cases built : idp.build with
  | some text => exact iff_of_true (paced_of_build_failure neutral (by simp [built])) (.inl rfl)
  | none =>
      rw [doExchange_chain built] at throttled
      constructor
      · intro paced
        refine .inr (Int.not_le.mp fun late => ?_)
        exact not_paced_of_deadline built throttled late paced
      · rintro (failed | fits)
        · exact absurd failed Bool.false_ne_true
        · exact paced_of_count neutral built throttled fits

def plainBreaker : Gobreaker (Nat × Nat) where
  successes := Prod.fst
  failures := Prod.snd
  onExcluded := id
  onSuccess := fun (successes, failures) => (successes + 1, failures)
  onFailure := fun (successes, failures) => (successes, failures + 1)

theorem plainBreaker_neutral : plainBreaker.Neutral := fun _ => ⟨rfl, rfl⟩

def shipped : Exchanger where
  grantType := .tokenExchange
  tokenExpiryFallback := 0
  maxHonoredRetryAfter := 0
  chainDeadline := 19 * second
  maxRetries := 2

def plainFormat : Format where
  parseTime := fun _ => none
  parseMediaType := some
  quote := fun text => "\"" ++ text ++ "\""

def throttling (header : String) (wait : Nat) : Idp where
  start := 0
  build := none
  script := fun _ =>
    ⟨100000000, .replied ⟨429, "", [header], .ok ⟨.error "unexpected end of JSON input", none⟩⟩,
      0, wait⟩
  parseLag := 0
  raiseLag := 0
  rivals := []

theorem throttling_throttled (header : String) (wait : Nat) (format : Format) :
    Throttled (doExchange shipped format (throttling header wait)).received := by
  intro receipt member
  rw [doExchange_chain rfl] at member
  obtain ⟨j, answer⟩ := answer_of_received member
  rw [answer]
  exact ⟨_, _, rfl, rfl, rfl⟩

theorem throttled_paced_one_second :
    Paced plainBreaker shipped plainFormat (throttling "1" 1000000000) ⟨(0, 0), 4⟩ 0 :=
  (throttled_paced_iff plainBreaker shipped plainFormat (throttling "1" 1000000000) ⟨(0, 0), 4⟩ 0
    plainBreaker_neutral (throttling_throttled _ _ _)).mpr (.inr (by decide))

/-- A provider that asks for a minute outlasts the deadline: its throttling is the fifth failure in a
row, and the gate stays open. -/
theorem throttled_counted_one_minute :
    Throttled (doExchange shipped plainFormat (throttling "60" 60000000000)).received ∧
      (runExchangeOnce plainBreaker shipped plainFormat (throttling "60" 60000000000) ⟨(0, 0), 4⟩
        0).breaker = ⟨(0, 1), 5⟩ ∧
      (runExchangeOnce plainBreaker shipped plainFormat (throttling "60" 60000000000) ⟨(0, 0), 4⟩
        0).gatedUntil = 0 ∧
      ¬ Paced plainBreaker shipped plainFormat (throttling "60" 60000000000) ⟨(0, 0), 4⟩ 0 := by
  refine ⟨throttling_throttled _ _ _, rfl, rfl, fun paced => ?_⟩
  exact absurd paced.consecutive (by decide)

end BrokerMcp.Proof.TokenExchange
