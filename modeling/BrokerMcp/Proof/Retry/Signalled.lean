import BrokerMcp.Proof.Retry.Write
import BrokerMcp.Resilience.Signal

namespace BrokerMcp.Proof.Retry
open Resilience

def calm (err : Option Chain) : Prop := ∀ chain, err = some chain → chain.any Link.isBusy = false

theorem calm_none : calm none := by
  rintro chain ⟨⟩

theorem calm_foreign (causes : List Foreign) : (causes.map Link.foreign).any Link.isBusy = false := by
  rw [List.any_eq_false]
  intro link member
  obtain ⟨cause, -, rfl⟩ := List.mem_map.mp member
  exact Bool.false_ne_true

theorem calm_orElse {first second : Option Chain} (one : calm first) (other : calm second) :
    calm (first <|> second) := by
  cases first with
  | none => exact other
  | some chain => exact one

theorem checkStatus_calm (state : RetryState) (result : AuthFailureResult) (code : Nat) :
    calm (checkStatus state result code).err := by
  unfold checkStatus
  dsimp only
  split_ifs <;> rintro chain ⟨⟩ <;> rfl

theorem checkRetry_calm (state : RetryState) (a : Attempt) : calm (checkRetry state a).err := by
  cases live : a.ctxErr with
  | some err =>
      rw [show checkRetry state a = ⟨state, false, some [.foreign (.context err)]⟩ by
        simp [checkRetry, live]]
      rintro chain ⟨⟩
      rfl
  | none =>
      cases guard : guarded state with
      | true =>
          unfold guarded at guard
          unfold checkRetry
          simp only [live, guard, ↓reduceIte]
          cases a.outcome with
          | failed resp err => exact calm_none
          | answered reply =>
              dsimp only
              split_ifs <;> rintro chain ⟨⟩
              rfl
      | false =>
          rw [checkRetry_unguarded live guard]
          cases a.outcome with
          | answered reply => exact checkStatus_calm state a.authResult reply.statusCode
          | failed resp err =>
              dsimp only
              split_ifs
              · exact calm_none
              · cases a.policy.2 with
                | none => exact calm_none
                | some causes =>
                    rintro chain ⟨⟩
                    exact calm_foreign causes

theorem signal_exhausted (callerEnded : Bool) (e : RetriesExhaustedError) {rest : Chain}
    (quiet : rest.any Link.isBusy = false) :
    brokerSignalStatus callerEnded (.error (.retriesExhausted e :: rest)) = some e.statusCode := by
  have busy : (Link.retriesExhausted e :: rest).any Link.isBusy = false := by
    simpa [Link.isBusy] using quiet
  simp only [brokerSignalStatus, busy, Bool.false_eq_true, ↓reduceIte]
  rfl

theorem finish_signal (callerEnded : Bool) (a : Attempt) (retry : Bool)
    {prepareErr checkErr : Option Chain} (prepared : calm prepareErr) (checked : calm checkErr)
    (attempt : Nat) :
    brokerSignalStatus callerEnded (finish a retry prepareErr checkErr attempt) =
      some (a.outcome.responseStatus?.getD 0) := by
  have both := calm_orElse prepared checked
  cases outcome : a.outcome with
  | answered reply =>
      simp only [finish, outcome]
      split_ifs with clean
      · rfl
      · cases cause : (prepareErr <|> checkErr) with
        | none => exact signal_exhausted callerEnded _ rfl
        | some err => exact signal_exhausted callerEnded _ (both err cause)
  | failed resp causes =>
      simp only [finish, outcome]
      obtain ⟨err, cause⟩ : ∃ err, (prepareErr <|> checkErr <|> some (causes.map .foreign)) =
          some err := by
        cases prepareErr <;> cases checkErr <;> exact ⟨_, rfl⟩
      have quiet : err.any Link.isBusy = false := by
        refine calm_orElse prepared (calm_orElse checked ?_) err cause
        rintro chain ⟨⟩
        exact calm_foreign causes
      rw [cause]
      cases resp <;> exact signal_exhausted callerEnded _ quiet

def Abandoned (retryMax : Nat) (tries : List Try) (t : Try) : Prop :=
  tries.length ≤ retryMax ∧ t.verdict.retry = true ∧ t.attempt.backoff.isSome = true

instance (retryMax : Nat) (tries : List Try) (t : Try) : Decidable (Abandoned retryMax tries t) :=
  inferInstanceAs (Decidable (_ ∧ _))

def reported (callerEnded : Bool) (remain : Nat) (tries : List Try) (t : Try) : Option Nat :=
  if Abandoned remain tries t then (if callerEnded then none else some 0)
  else some (t.attempt.outcome.responseStatus?.getD 0)

theorem reported_cons (callerEnded : Bool) (remain : Nat) (t : Try) (tries : List Try) (last : Try) :
    reported callerEnded (remain + 1) (t :: tries) last =
      reported callerEnded remain tries last := by
  have same : Abandoned (remain + 1) (t :: tries) last ↔ Abandoned remain tries last := by
    simp [Abandoned]
  simp only [reported, same]

theorem prepareRetry_calm (state : RetryState) {addAuth : Option Chain} (quiet : calm addAuth) :
    calm (prepareRetry state addAuth).2.2 := by
  unfold prepareRetry
  split_ifs
  · exact quiet
  · exact calm_none

theorem responseStatus_closed (outcome : Outcome) :
    outcome.closed.responseStatus? = outcome.responseStatus? := by
  cases outcome <;> rfl

theorem retryLoop_signal (callerEnded : Bool) {attempts : Nat → Attempt}
    (quiet : ∀ k, calm (attempts k).addAuth) (remain i : Nat) (state : RetryState)
    (reauthed : Bool) : ∃ t, (retryLoop attempts remain i state reauthed).tries.getLast? = some t ∧
      brokerSignalStatus callerEnded (retryLoop attempts remain i state reauthed).result =
        reported callerEnded remain (retryLoop attempts remain i state reauthed).tries t := by
  obtain ⟨t, here⟩ : ∃ t, t = attempted state (attempts i) reauthed := ⟨_, rfl⟩
  have checked : calm t.verdict.err := by
    rw [here]
    exact checkRetry_calm _ _
  induction remain generalizing i state reauthed t with
  | zero =>
      have stays : ¬ Abandoned 0 [t] t := by simp [Abandoned]
      rw [retryLoop_zero attempts i state reauthed t here]
      cases asked : t.verdict.retry <;>
        refine ⟨t, rfl, ?_⟩ <;>
        simpa [reported, stays] using finish_signal callerEnded t.attempt _ calm_none checked (i + 1)
  | succ remain ih =>
      rw [retryLoop_succ attempts remain i state reauthed t here]
      cases asked : t.verdict.retry with
      | false =>
          have stays : ¬ Abandoned (remain + 1) [t] t := by simp [Abandoned, asked]
          refine ⟨t, rfl, ?_⟩
          simpa [reported, stays] using
            finish_signal callerEnded t.attempt false calm_none checked (i + 1)
      | true =>
          simp only [Bool.not_true, Bool.false_eq_true, ↓reduceIte]
          cases waited : t.attempt.backoff with
          | some err =>
              have leaves : Abandoned (remain + 1) [t] t := by simp [Abandoned, asked, waited]
              refine ⟨t, rfl, ?_⟩
              simp only [reported, leaves, ↓reduceIte]
              rfl
          | none =>
              have stays : ∀ tries, ¬ Abandoned (remain + 1) tries t := by
                simp [Abandoned, waited]
              cases prepared : (prepareRetry t.verdict.state t.attempt.addAuth).2.2 with
              | some err =>
                  have failed : calm (some err) := by
                    rw [← prepared]
                    refine prepareRetry_calm t.verdict.state ?_
                    rw [here]
                    exact quiet i
                  refine ⟨t, rfl, ?_⟩
                  simp only [reported, stays, ↓reduceIte]
                  rw [finish_signal callerEnded _ true failed checked, responseStatus_closed]
              | none =>
                  simp only
                  obtain ⟨last, found, signal⟩ := ih (i + 1)
                    (prepareRetry t.verdict.state t.attempt.addAuth).1
                    (prepareRetry t.verdict.state t.attempt.addAuth).2.1 _ rfl (checkRetry_calm _ _)
                  refine ⟨last, by simp [List.getLast?_cons, found], ?_⟩
                  rw [signal, reported_cons]

theorem any_amend (p : Link → Bool) {f : RetriesExhaustedError → RetriesExhaustedError}
    (blind : ∀ e e', p (.retriesExhausted e) = p (.retriesExhausted e')) (err : Chain) :
    (err.amend f).any p = err.any p := by
  induction err with
  | nil => rfl
  | cons link rest ih =>
      cases link with
      | retriesExhausted e => simp [Chain.amend, blind (f e) e]
      | _ => simp [Chain.amend, ih]

theorem exhausted_amend (f : RetriesExhaustedError → RetriesExhaustedError) (err : Chain) :
    (err.amend f).findSome? Link.exhausted? = (err.findSome? Link.exhausted?).map f := by
  induction err with
  | nil => rfl
  | cons link rest ih =>
      cases link with
      | retriesExhausted e => rfl
      | _ => exact ih

theorem signal_amend (callerEnded : Bool) {f : RetriesExhaustedError → RetriesExhaustedError}
    (keeps : ∀ e, (f e).statusCode = e.statusCode) (err : Chain) :
    brokerSignalStatus callerEnded (.error (err.amend f)) =
      brokerSignalStatus callerEnded (.error err) := by
  have busy : (err.amend f).any Link.isBusy = err.any Link.isBusy := any_amend _ (fun _ _ => rfl) err
  have context : (err.amend f).any Link.isContext = err.any Link.isContext :=
    any_amend _ (fun _ _ => rfl) err
  simp only [brokerSignalStatus, busy, context, exhausted_amend]
  cases err.findSome? Link.exhausted? with
  | none => rfl
  | some e => simp [keeps]

theorem doRequest_signal (callerEnded : Bool) (retryMax : Nat) (req : Request) {world : World}
    (reached : World.reached world = true) :
    brokerSignalStatus callerEnded (doRequest retryMax req world).result =
      brokerSignalStatus callerEnded (retryLoop world.attempts retryMax 0 (.new req) false).result := by
  obtain ⟨admitted, wrapped⟩ : world.admission = none ∧ world.wrapping = none := by
    simpa [World.reached] using reached
  unfold doRequest
  simp only [admitted, wrapped]
  cases result : (retryLoop world.attempts retryMax 0 (.new req) false).result with
  | ok reply => exact congrArg _ result
  | error err =>
      dsimp only
      split_ifs
      · refine signal_amend callerEnded ?_ err
        intro e
        rfl
      · exact congrArg _ result

structure Signalled (c : DoCall) : Prop where
  shed : ∀ stage maxWait, c.world.admission = some (.brokerBusy stage maxWait) → c.signal = none
  left : ∀ err, c.world.admission = some (.context err) →
    c.signal = if c.callerEnded then none else some 0
  sent : World.reached c.world = true → ∃ t, c.sent.tries.getLast? = some t ∧
    c.signal = reported c.callerEnded c.retryMax c.sent.tries t
  ended : ∀ t, World.reached c.world = true → c.sent.tries.getLast? = some t →
    t.attempt.ctxErr.isSome = true → c.signal = some (t.attempt.outcome.responseStatus?.getD 0)

theorem call_signalled (c : DoCall) (quiet : ∀ k, calm (c.world.attempts k).addAuth) :
    Signalled c := by
  have sent : World.reached c.world = true → ∃ t, c.sent.tries.getLast? = some t ∧
      c.signal = reported c.callerEnded c.retryMax c.sent.tries t := by
    intro reached
    obtain ⟨t, last, signal⟩ := retryLoop_signal c.callerEnded quiet c.retryMax 0 (.new c.req) false
    have tries : c.sent.tries =
        (retryLoop c.world.attempts c.retryMax 0 (.new c.req) false).tries := by
      rw [DoCall.sent, doRequest_tries, if_pos reached]
    refine ⟨t, tries ▸ last, ?_⟩
    rw [tries, ← signal]
    exact doRequest_signal c.callerEnded c.retryMax c.req reached
  refine ⟨?_, ?_, sent, ?_⟩
  · intro stage maxWait refused
    simp [DoCall.signal, DoCall.sent, doRequest, refused, AdmissionError.chain, brokerSignalStatus,
      Link.isBusy]
  · intro err refused
    simp [DoCall.signal, DoCall.sent, doRequest, refused, AdmissionError.chain, brokerSignalStatus,
      Link.isBusy, Link.isContext, Link.exhausted?]
  · intro t reached last ended
    obtain ⟨t', found, signal⟩ := sent reached
    obtain rfl := Option.some.inj (last.symm.trans found)
    have declined : t.verdict.retry = false := by
      obtain ⟨u, ends⟩ := (retryLoop_looped c.world.attempts c.retryMax 0 (.new c.req) false).ends
      rw [DoCall.sent, doRequest_tries, if_pos reached] at last
      obtain rfl := Option.some.inj (last.symm.trans ends.last)
      obtain ⟨err, ended⟩ := Option.isSome_iff_exists.mp ended
      rw [ends.verdict]
      simp [checkRetry, ended]
    have stays : ¬ Abandoned c.retryMax c.sent.tries t := by simp [Abandoned, declined]
    rw [signal, reported, if_neg stays]

def hungUp : DoCall where
  retryMax := 3
  req := ⟨"GET", false, false⟩
  world := ⟨none, none, fun _ =>
    ⟨true, .failed none [.context .canceled], some .canceled, (false, none), ⟨false, false⟩, none,
      none⟩⟩
  callerEnded := true

theorem call_signalled_hungUp : Signalled hungUp ∧ hungUp.signal = some 0 := by
  have signalled := call_signalled hungUp fun _ => calm_none
  refine ⟨signalled, ?_⟩
  decide

end BrokerMcp.Proof.Retry
