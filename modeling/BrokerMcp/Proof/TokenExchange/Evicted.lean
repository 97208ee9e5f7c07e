import BrokerMcp.Proof.Retry.Loop
import BrokerMcp.Proof.TokenExchange.Identity
import BrokerMcp.TokenExchange.Sending

namespace BrokerMcp.Proof.TokenExchange
open Resilience BrokerMcp.TokenExchange Transition
open Proof.Retry (guarded)
open Text (Bytes)

def Rejects (a : Resilience.Attempt) : Prop :=
  a.ctxErr = none ∧ a.outcome.status? = some 401

def issuedValues (s : Outbox) : List String := s.issued.map Prod.snd

def IssuedOnce (s : Outbox) : Prop := (issuedValues s).Nodup

def Unsent (value : String) (history : List (Outbox × SendAction)) : Prop :=
  ∀ st a c, (st, SendAction.attempt a) ∈ history → st.sending = some c → c.bearer ≠ value

def Evicted (sha256 : Bytes → Bytes) (maxTTL : Int) (value : String) (t : Outbox) : Prop :=
  ∀ after s, Run (Outbox.step sha256 maxTTL) t after s → IssuedOnce s →
    (s.sending = none → ∀ entry ∈ s.cache, entry.2.value ≠ value) ∧ Unsent value after

section Steps

variable {sha256 : Bytes → Bytes} {maxTTL : Int} {s t : Outbox} {a : SendAction}

inductive Supplied (maxTTL : Int) (s : Outbox) (key : String) : Token → Outbox → Prop where
  | cached {token : Token} (found : (key, token) ∈ s.cache) : Supplied maxTTL s key token s
  | issued (token : Token) (putAt : Int) : Supplied maxTTL s key token { s with
      cache := putToken maxTTL putAt key token s.cache
      issued := s.issued ++ [(key, token.value)] }

theorem exchangeAlone_supplied {key : String} {x : Exchanging} {token : Token}
    (done : exchangeAlone maxTTL s key x = .ok (token, t)) : Supplied maxTTL s key token t := by
  unfold exchangeAlone at done
  split at done
  · rename_i found
    obtain ⟨rfl, rfl⟩ := Prod.mk.inj (Except.ok.inj done)
    exact .cached (Assoc.mem_of_lookup (Option.filter_eq_some_iff.mp found).1)
  · split at done
    · cases done
    · obtain ⟨rfl, rfl⟩ := Prod.mk.inj (Except.ok.inj done)
      exact .issued _ _

inductive Sends (sha256 : Bytes → Bytes) (maxTTL : Int) (s : Outbox) :
    SendAction → Outbox → Prop where
  | attempt (c : Sending) (a : Resilience.Attempt) (sent : s.sending = some c)
      (ready : c.waiting = false) : Sends sha256 maxTTL s (.attempt a) (s.attempt sha256 c a)
  | supplied {a : SendAction} {input : ExchangeInput} {token : Token} {s' : Outbox}
      (state : RetryState)
      (supplied : Supplied maxTTL s (computeDeduplicationKey sha256 input) token s') :
      Sends sha256 maxTTL s a { s' with sending := some ⟨input, state, token.value, false⟩ }
  | finished {a : SendAction} : Sends sha256 maxTTL s a { s with sending := none }
  | again {a : SendAction} (c : Sending) (state : RetryState) (sent : s.sending = some c)
      (plain : c.state.needsReauth = false) :
      Sends sha256 maxTTL s a { s with sending := some { c with state := state, waiting := false } }
  | filled {a : SendAction} {key : String} {token : Token} {s' : Outbox}
      (supplied : Supplied maxTTL s key token s') : Sends sha256 maxTTL s a s'
  | evict (key : String) :
      Sends sha256 maxTTL s (.evict key) { s with cache := Assoc.drop key s.cache }

theorem addAuth_sends (s : Outbox) (x : Exchanging) (input : ExchangeInput) (state : RetryState) :
    Sends sha256 maxTTL s a (addAuth sha256 maxTTL s x input state) := by
  unfold addAuth
  split
  · rename_i done
    exact .supplied state (exchangeAlone_supplied done)
  · exact .finished

theorem resume_sends {c : Sending} (sent : s.sending = some c) (x : Exchanging) :
    Sends sha256 maxTTL s a (s.resume sha256 maxTTL c x) := by
  unfold Outbox.resume prepareRetry
  cases plain : c.state.needsReauth with
  | true => exact addAuth_sends s x c.input _
  | false => exact .again c c.state sent plain

theorem step_sends (taken : s.step sha256 maxTTL a = some t) : Sends sha256 maxTTL s a t := by
  cases a with
  | start input req x =>
      simp only [Outbox.step] at taken
      split at taken
      · obtain rfl := Option.some.inj taken
        exact addAuth_sends s x input _
      · cases taken
  | attempt a =>
      obtain ⟨c, sent, taken⟩ := Option.bind_eq_some_iff.mp taken
      split_ifs at taken with waiting
      obtain rfl := Option.some.inj taken
      exact .attempt c a sent (by simpa using waiting)
  | resume x =>
      obtain ⟨c, sent, taken⟩ := Option.bind_eq_some_iff.mp taken
      split_ifs at taken with waiting
      obtain rfl := Option.some.inj taken
      exact resume_sends sent x
  | leave =>
      obtain ⟨c, sent, taken⟩ := Option.bind_eq_some_iff.mp taken
      split_ifs at taken with waiting
      obtain rfl := Option.some.inj taken
      exact .finished
  | fill key token now =>
      obtain rfl := Option.some.inj taken
      exact .filled (.issued token now)
  | evict key =>
      obtain rfl := Option.some.inj taken
      exact .evict key

structure Known (sha256 : Bytes → Bytes) (s : Outbox) : Prop where
  cached : ∀ entry ∈ s.cache, (entry.1, entry.2.value) ∈ s.issued
  sent : ∀ c, s.sending = some c → (c.key sha256, c.bearer) ∈ s.issued

theorem mem_putToken {now : Int} {key : String} {token : Token} {cache : List (String × Token)}
    {entry : String × Token} (member : entry ∈ putToken maxTTL now key token cache) :
    entry = (key, token) ∨ entry ∈ cache := by
  unfold putToken at member
  split_ifs at member
  · exact .inr member
  · exact Assoc.mem_of_mem_put member

theorem Supplied.known {key : String} {token : Token} (known : Known sha256 s)
    (supplied : Supplied maxTTL s key token t) :
    (∀ entry ∈ t.cache, (entry.1, entry.2.value) ∈ t.issued) ∧ (key, token.value) ∈ t.issued := by
  cases supplied with
  | cached found => exact ⟨known.cached, known.cached _ found⟩
  | issued putAt =>
      refine ⟨?_, by simp⟩
      intro entry member
      rcases mem_putToken member with rfl | old
      · simp
      · exact List.mem_append_left _ (known.cached entry old)

theorem Supplied.sending_eq {key : String} {token : Token}
    (supplied : Supplied maxTTL s key token t) : t.sending = s.sending := by
  cases supplied <;> rfl

theorem Supplied.issued_extends {key : String} {token : Token}
    (supplied : Supplied maxTTL s key token t) : s.issued <+: t.issued := by
  cases supplied with
  | cached => exact List.prefix_rfl
  | issued => exact List.prefix_append _ _

theorem Sends.known (known : Known sha256 s) (sends : Sends sha256 maxTTL s a t) :
    Known sha256 t := by
  cases sends with
  | attempt c a sent ready =>
      refine ⟨?_, ?_⟩
      · intro entry member
        simp only [Outbox.attempt] at member
        split_ifs at member
        · exact known.cached entry (Assoc.mem_drop_iff.mp member).1
        · exact known.cached entry member
      · intro c' sent'
        simp only [Outbox.attempt] at sent'
        split_ifs at sent'
        obtain rfl := Option.some.inj sent'
        exact known.sent c sent
  | supplied state supplied =>
      obtain ⟨cached, source⟩ := supplied.known known
      refine ⟨cached, fun c sent => ?_⟩
      obtain rfl := Option.some.inj sent
      exact source
  | finished =>
      refine ⟨known.cached, fun c sent => ?_⟩
      cases sent
  | again c state sent plain =>
      refine ⟨known.cached, fun c' sent' => ?_⟩
      obtain rfl := Option.some.inj sent'
      exact known.sent c sent
  | filled supplied =>
      refine ⟨(supplied.known known).1, fun c sent => ?_⟩
      rw [supplied.sending_eq] at sent
      exact supplied.issued_extends.subset (known.sent c sent)
  | evict key =>
      exact ⟨fun entry member => known.cached entry (Assoc.mem_drop_iff.mp member).1, known.sent⟩

theorem Sends.issued_extends (sends : Sends sha256 maxTTL s a t) : s.issued <+: t.issued := by
  cases sends with
  | supplied state supplied => exact supplied.issued_extends
  | filled supplied => exact supplied.issued_extends
  | _ => exact List.prefix_rfl

theorem Sends.values_extend (sends : Sends sha256 maxTTL s a t) : issuedValues s <+: issuedValues t :=
  sends.issued_extends.map Prod.snd

theorem Known.key_unique (known : Known sha256 s) (once : IssuedOnce s) {c : Sending}
    (sent : s.sending = some c) {entry : String × Token} (member : entry ∈ s.cache)
    (same : entry.2.value = c.bearer) : entry.1 = c.key sha256 := by
  have pair := List.inj_on_of_nodup_map once (known.cached entry member) (known.sent c sent) same
  exact congrArg Prod.fst pair

structure Away (value : String) (s : Outbox) : Prop where
  known : value ∈ issuedValues s
  uncached : ∀ entry ∈ s.cache, entry.2.value ≠ value
  unsent : ∀ c, s.sending = some c →
    c.bearer ≠ value ∨ (c.waiting = true ∧ c.state.needsReauth = true)

variable {value : String}

theorem Supplied.away {key : String} {token : Token} (supplied : Supplied maxTTL s key token t)
    (away : Away value s) (once : IssuedOnce t) :
    (∀ entry ∈ t.cache, entry.2.value ≠ value) ∧ token.value ≠ value := by
  cases supplied with
  | cached found => exact ⟨away.uncached, away.uncached _ found⟩
  | issued putAt =>
      -- a value that was issued before is not the one that is issued now
      have new : token.value ≠ value := by
        intro same
        have distinct : (issuedValues s ++ [token.value]).Nodup := by simpa [IssuedOnce, issuedValues] using once
        exact (List.nodup_append.mp distinct).2.2 value away.known token.value (by simp) same.symm
      refine ⟨?_, new⟩
      intro entry member
      rcases mem_putToken member with rfl | old
      · exact new
      · exact away.uncached entry old

theorem Sends.away (sends : Sends sha256 maxTTL s a t) (away : Away value s)
    (once : IssuedOnce t) : Away value t := by
  have known : value ∈ issuedValues t := sends.values_extend.subset away.known
  cases sends with
  | attempt c a sent ready =>
      have other : c.bearer ≠ value := by
        refine (away.unsent c sent).resolve_right ?_
        simp [ready]
      refine ⟨known, ?_, ?_⟩
      · intro entry member
        simp only [Outbox.attempt] at member
        split_ifs at member
        · exact away.uncached entry (Assoc.mem_drop_iff.mp member).1
        · exact away.uncached entry member
      · intro c' sent'
        simp only [Outbox.attempt] at sent'
        split_ifs at sent'
        obtain rfl := Option.some.inj sent'
        exact .inl other
  | supplied state supplied =>
      obtain ⟨uncached, other⟩ := supplied.away away once
      refine ⟨known, uncached, fun c sent => ?_⟩
      obtain rfl := Option.some.inj sent
      exact .inl other
  | finished =>
      refine ⟨known, away.uncached, fun c sent => ?_⟩
      cases sent
  | again c state sent plain =>
      refine ⟨known, away.uncached, fun c' sent' => .inl ?_⟩
      obtain rfl := Option.some.inj sent'
      refine (away.unsent c sent).resolve_right ?_
      simp [plain]
  | filled supplied =>
      refine ⟨known, (supplied.away away once).1, fun c sent => ?_⟩
      rw [supplied.sending_eq] at sent
      exact away.unsent c sent
  | evict key =>
      exact ⟨known, fun entry member => away.uncached entry (Assoc.mem_drop_iff.mp member).1,
        away.unsent⟩

theorem attempt_ready {c : Sending} {a : Resilience.Attempt} (sent : s.sending = some c)
    (taken : s.step sha256 maxTTL (.attempt a) = some t) :
    c.waiting = false ∧ t = s.attempt sha256 c a := by
  obtain ⟨c', sent', taken⟩ := Option.bind_eq_some_iff.mp taken
  obtain rfl := Option.some.inj (sent.symm.trans sent')
  split_ifs at taken with waiting
  exact ⟨by simpa using waiting, (Option.some.inj taken).symm⟩

end Steps

section Runs

variable {sha256 : Bytes → Bytes} {maxTTL : Int} {s t : Outbox} {value : String}
  {history : List (Outbox × SendAction)}

theorem run_values (run : Run (Outbox.step sha256 maxTTL) s history t) :
    issuedValues s <+: issuedValues t := by
  induction run with
  | nil => exact List.prefix_rfl
  | cons taken _ ih => exact (step_sends taken).values_extend.trans ih

theorem run_away (run : Run (Outbox.step sha256 maxTTL) s history t) (away : Away value s)
    (once : IssuedOnce t) : Away value t ∧ Unsent value history := by
  induction run with
  | nil =>
      refine ⟨away, ?_⟩
      intro st a c member
      cases member
  | cons taken rest ih =>
      have next := (step_sends taken).away away ((run_values rest).sublist.nodup once)
      obtain ⟨final, unsent⟩ := ih next once
      refine ⟨final, ?_⟩
      intro st a c member sent
      rcases List.mem_cons.mp member with here | later
      · obtain ⟨rfl, rfl⟩ := Prod.mk.inj here
        refine (away.unsent c sent).resolve_right ?_
        simp [(attempt_ready sent taken).1]
      · exact unsent st a c later sent

theorem run_known (run : Run (Outbox.step sha256 maxTTL) .empty history s) : Known sha256 s := by
  have first : Known sha256 .empty := by
    constructor
    · intro entry member
      cases member
    · intro c sent
      cases sent
  exact (run.invariant first fun _ _ _ known taken => (step_sends taken).known known).1

end Runs

section Rejection

variable {sha256 : Bytes → Bytes} {maxTTL : Int} {s t : Outbox} {c : Sending} {a : Resilience.Attempt}

theorem checkRetry_rejects (state : RetryState) (rejects : Rejects a) :
    let verdict := checkRetry state { a with authResult := authFailureResult }
    if guarded state = false ∧ state.auth401Retried = false then
      verdict.retry = true ∧ verdict.state.auth401Retried = true ∧ verdict.state.needsReauth = true
    else verdict.retry = false ∧ verdict.state.auth401Retried = state.auth401Retried := by
  obtain ⟨live, code⟩ := rejects
  cases guard : guarded state with
  | true =>
      obtain ⟨declined, same⟩ :=
        Proof.Retry.checkRetry_guarded (a := { a with authResult := authFailureResult }) guard
      simp [declined, same]
  | false =>
      have verdict :=
        Proof.Retry.checkRetry_unguarded (a := { a with authResult := authFailureResult }) live guard
      cases outcome : a.outcome with
      | failed resp err => simp [outcome, Outcome.status?] at code
      | answered reply =>
          have code : reply.statusCode = 401 := by simpa [outcome, Outcome.status?] using code
          simp only [outcome, checkStatus, code, ↓reduceIte] at verdict
          simp only [verdict]
          cases first : state.auth401Retried <;> simp [authFailureResult]

def wrote (state : RetryState) (a : Resilience.Attempt) : RetryState :=
  { state with requestWritten := state.requestWritten || a.wroteHeaders }

theorem attempt_handled (s : Outbox) (rejects : Rejects a) (guard : guarded c.state = false)
    (first : c.state.auth401Retried = false) :
    (s.attempt sha256 c a).cache = Assoc.drop (c.key sha256) s.cache ∧
      ∃ state, state.needsReauth = true ∧
        (s.attempt sha256 c a).sending = some { c with state := state, waiting := true } := by
  have verdict := checkRetry_rejects (wrote c.state a) rejects
  have reached : guarded (wrote c.state a) = false ∧ (wrote c.state a).auth401Retried = false :=
    ⟨guard, first⟩
  simp only [if_pos reached] at verdict
  obtain ⟨retried, flagged, reauth⟩ := verdict
  refine ⟨if_pos ?_, _, reauth, if_pos retried⟩
  show (!c.state.auth401Retried && _) = true
  rw [first]
  exact flagged

theorem attempt_unhandled (s : Outbox) (rejects : Rejects a)
    (missed : ¬ (guarded c.state = false ∧ c.state.auth401Retried = false)) :
    s.attempt sha256 c a = { s with sending := none } := by
  have verdict := checkRetry_rejects (wrote c.state a) rejects
  have declined : ¬ (guarded (wrote c.state a) = false ∧
      (wrote c.state a).auth401Retried = false) := missed
  simp only [if_neg declined] at verdict
  obtain ⟨ended, same⟩ := verdict
  have quiet : authHandled (wrote c.state a)
      (checkRetry (wrote c.state a) { a with authResult := authFailureResult }).state = false := by
    simp [authHandled, same]
  show Outbox.mk (if _ then _ else _) _ (if _ then _ else _) = _
  exact congrArg₂ (Outbox.mk · s.issued ·) (if_neg (Bool.eq_false_iff.mp quiet))
    (if_neg (Bool.eq_false_iff.mp ended))

theorem attempt_away (known : Known sha256 s) (once : IssuedOnce s) (sent : s.sending = some c)
    (rejects : Rejects a)
    (handled : (guarded c.state = false ∧ c.state.auth401Retried = false) ∨
      ∀ entry ∈ s.cache, entry.2.value ≠ c.bearer) :
    Away c.bearer (s.attempt sha256 c a) := by
  have issued : c.bearer ∈ issuedValues s := List.mem_map.mpr ⟨_, known.sent c sent, rfl⟩
  by_cases reached : guarded c.state = false ∧ c.state.auth401Retried = false
  · obtain ⟨cache, state, reauth, waiting⟩ := attempt_handled s rejects reached.1 reached.2
    refine ⟨issued, ?_, ?_⟩
    · intro entry member same
      rw [cache, Assoc.mem_drop_iff] at member
      exact member.2 (known.key_unique once sent member.1 same)
    · intro c' sent'
      rw [waiting] at sent'
      obtain rfl := Option.some.inj sent'
      exact .inr ⟨rfl, reauth⟩
  · rw [attempt_unhandled s rejects reached]
    refine ⟨issued, handled.resolve_left reached, fun c sent => ?_⟩
    cases sent

end Rejection

/-- A token that was answered with 401 is evicted exactly when the method guard lets the 401 through
and it is the first one of the call, or when the cache has lost the token already. -/
theorem rejected_evicted_iff (sha256 : Bytes → Bytes) (maxTTL : Int)
    {history : List (Outbox × SendAction)} {s t : Outbox} {c : Sending} {a : Resilience.Attempt}
    (run : Run (Outbox.step sha256 maxTTL) .empty history s) (once : IssuedOnce s)
    (sent : s.sending = some c) (rejects : Rejects a)
    (taken : s.step sha256 maxTTL (.attempt a) = some t) :
    Evicted sha256 maxTTL c.bearer t ↔
      (guarded c.state = false ∧ c.state.auth401Retried = false) ∨
        ∀ entry ∈ s.cache, entry.2.value ≠ c.bearer := by
  obtain ⟨-, rfl⟩ := attempt_ready sent taken
  constructor
  · intro evicted
    rw [or_iff_not_imp_left]
    intro missed
    have left : s.attempt sha256 c a = { s with sending := none } :=
      attempt_unhandled s rejects missed
    rw [left] at evicted
    exact (evicted [] _ .nil once).1 rfl
  · intro handled after u later once'
    have away := attempt_away (run_known run) once sent rejects handled
    obtain ⟨final, unsent⟩ := run_away later away once'
    exact ⟨fun _ => final.uncached, unsent⟩

private def aliceKey : String := computeDeduplicationKey digest alice

private def issues (value : String) : Exchanging := ⟨0, .ok ⟨value, 100⟩, 0⟩

private def refusal : Resilience.Attempt where
  wroteHeaders := true
  outcome := .answered ⟨401, ⟨[], none⟩⟩
  ctxErr := none
  policy := (false, none)
  authResult := authFailureResult
  backoff := none
  addAuth := none

theorem rejected_evicted_get :
    let sent : Outbox := ⟨[(aliceKey, ⟨"T", 100⟩)], [(aliceKey, "T")],
      some ⟨alice, .new ⟨"GET", false, false⟩, "T", false⟩⟩
    Evicted digest 100 "T" (sent.attempt digest
      ⟨alice, .new ⟨"GET", false, false⟩, "T", false⟩ refusal) := by
  intro sent
  have run : Run (Outbox.step digest 100) .empty
      [(.empty, .start alice ⟨"GET", false, false⟩ (issues "T"))] sent := .single rfl
  exact (rejected_evicted_iff digest 100 run (List.nodup_singleton _) rfl ⟨rfl, rfl⟩ rfl).mpr
    (.inl ⟨by decide, rfl⟩)

/-- A POST without a marker is refused, and the next call sends its token again. -/
theorem rejected_token_sent_again : ¬ ∀ (sha256 : Bytes → Bytes) (maxTTL : Int)
    (history : List (Outbox × SendAction)) (s t : Outbox) (c : Sending) (a : Resilience.Attempt),
    Run (Outbox.step sha256 maxTTL) .empty history s → IssuedOnce s → s.sending = some c →
    Rejects a → s.step sha256 maxTTL (.attempt a) = some t → Evicted sha256 maxTTL c.bearer t := by
  intro evicted
  let call (method : String) : Sending := ⟨alice, .new ⟨method, false, false⟩, "T", false⟩
  let cached (sending : Option Sending) : Outbox :=
    ⟨[(aliceKey, ⟨"T", 100⟩)], [(aliceKey, "T")], sending⟩
  let step := Outbox.step digest 100
  have first : Run step .empty
      [(.empty, .start alice ⟨"POST", false, false⟩ (issues "T"))] (cached (call "POST")) :=
    .single rfl
  have next : Run step (cached none)
      [(cached none, .start alice ⟨"GET", false, false⟩ (issues "U")),
        (cached (call "GET"), .attempt { refusal with outcome := .answered ⟨200, ⟨[], none⟩⟩ })]
      (cached none) := .cons rfl (.single rfl)
  have left := evicted digest 100 _ _ (cached none) (call "POST") refusal first
    (List.nodup_singleton _) rfl ⟨rfl, rfl⟩ rfl
  exact (left _ _ next (List.nodup_singleton _)).2 _ _ (call "GET") (.tail _ (.head _)) rfl rfl

end BrokerMcp.Proof.TokenExchange
