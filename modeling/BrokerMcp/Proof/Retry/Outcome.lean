import BrokerMcp.Proof.Retry.Write
import BrokerMcp.Sempv2.Client
import BrokerMcp.Tools.Errors

namespace BrokerMcp.Proof.Retry
open Resilience BrokerMcp.Sempv2 BrokerMcp.Tools

structure Reported (wording : Wording) (brokerAlias : String) (err : Chain) : Prop where
  marked : ∃ e, Link.retriesExhausted e ∈ err ∧ e.nonIdempotent = true
  refused : isRetryable wording err = false
  told : ∃ rest, (buildErrorMessage wording err brokerAlias).1 = notRetriedMessage ++ rest

theorem Unknown.reported {err : Chain} (unknown : Unknown err) (wording : Wording)
    (brokerAlias message : String) : Reported wording brokerAlias (.text message :: err) := by
  obtain ⟨⟨e, rest, rfl, marked⟩, quiet⟩ := unknown
  have busy : (Link.text message :: .retriesExhausted e :: rest).findSome? Link.busy? = none := by
    rw [List.findSome?_eq_none_iff]
    rintro link (_ | ⟨_, _ | ⟨_, member⟩⟩)
    · rfl
    · rfl
    · have harmless := quiet link member
      cases link <;> first | rfl | cases harmless
  have exchange : Link.exchange true ∉ Link.text message :: .retriesExhausted e :: rest := by
    rintro (_ | ⟨_, _ | ⟨_, member⟩⟩)
    cases quiet _ member
  have found : (Link.text message :: .retriesExhausted e :: rest).findSome? Link.exhausted? =
      some e := rfl
  refine ⟨⟨e, by simp, marked⟩, ?_, ?_⟩
  · simp only [isRetryable, exchange, busy, found, marked, ↓reduceIte, Option.isSome_none,
      Bool.false_eq_true, Bool.not_true]
  · simp only [buildErrorMessage, busy, found, exhaustedMessage, marked, ↓reduceIte]
    split_ifs
    · exact ⟨_, String.append_assoc ..⟩
    · exact ⟨"", by simp⟩

theorem Unknown.amend {err : Chain} (unknown : Unknown err)
    {f : RetriesExhaustedError → RetriesExhaustedError}
    (keeps : ∀ e, (f e).nonIdempotent = e.nonIdempotent) : Unknown (err.amend f) := by
  obtain ⟨⟨e, rest, rfl, marked⟩, quiet⟩ := unknown
  exact ⟨⟨f e, rest, rfl, (keeps e).trans marked⟩, quiet⟩

theorem describe_marked {δ : Type} (json : Decoder δ) (op : Operation) (e : RetriesExhaustedError) :
    (describe json op e).nonIdempotent = e.nonIdempotent := by
  unfold describe
  dsimp only
  split_ifs <;> rfl

inductive ReadReply {δ : Type} (json : Decoder δ) (op : Operation) (reply : Reply) :
    Except Chain (Result δ) → Prop where
  | unreadable {err : Chain} (lost : readCappedBody reply.body maxSEMPResponseBytes = .error err)
      (other : op.method ≠ methodPost ∧ op.method ≠ methodPatch)
      (silent : ∀ e, Link.retriesExhausted e ∉ err) :
      ReadReply json op reply (.error (.text s!"reading response for {op.id}" :: err))
  | lost {err : Chain} (lost : readCappedBody reply.body maxSEMPResponseBytes = .error err)
      (write : op.method = methodPost ∨ op.method = methodPatch)
      (unknown : Unknown (.retriesExhausted ⟨reply.statusCode, 1, true, [], ""⟩ :: err)) :
      ReadReply json op reply (.error (.text s!"reading response for {op.id}" ::
        .retriesExhausted ⟨reply.statusCode, 1, true, [], ""⟩ :: err))
  | failed {body : List UInt8} (e : SEMPError)
      (read : readCappedBody reply.body maxSEMPResponseBytes = .ok body)
      (failure : ¬ (200 ≤ reply.statusCode ∧ reply.statusCode < 300)) :
      ReadReply json op reply (.error [.semp e])
  | undecodable {body : List UInt8} {err : Foreign}
      (read : readCappedBody reply.body maxSEMPResponseBytes = .ok body)
      (success : 200 ≤ reply.statusCode ∧ reply.statusCode < 300)
      (garbled : json.data body = .error err) :
      ReadReply json op reply (.error [.text s!"parsing JSON response for {op.id}", .foreign err])
  | decoded {body : List UInt8} {data : δ}
      (read : readCappedBody reply.body maxSEMPResponseBytes = .ok body)
      (success : 200 ≤ reply.statusCode ∧ reply.statusCode < 300)
      (decoded : json.data body = .ok data) :
      ReadReply json op reply (.ok ⟨data, reply.statusCode⟩)

theorem readCappedBody_error {body : Body} {limit : Nat} {err : Chain}
    (lost : readCappedBody body limit = .error err) : ∀ link ∈ err, quiet link = true := by
  unfold readCappedBody at lost
  split_ifs at lost
  · cases broken : body.broken with
    | none => simp [broken] at lost
    | some causes =>
        simp only [broken, Except.error.injEq] at lost
        subst lost
        rintro link (_ | ⟨_, member⟩)
        · rfl
        · obtain ⟨cause, -, rfl⟩ := List.mem_map.mp member
          rfl
  · simp only [Except.error.injEq] at lost
    subst lost
    rintro link (_ | ⟨_, _ | ⟨_, member⟩⟩)
    · rfl
    · rfl
    · cases member

theorem readReply_cases {δ : Type} (json : Decoder δ) (op : Operation) (reply : Reply) :
    ReadReply json op reply (readReply json op reply) := by
  unfold readReply
  cases read : readCappedBody reply.body maxSEMPResponseBytes with
  | error err =>
      have quiet := readCappedBody_error read
      dsimp only
      split_ifs with write
      · exact .lost read (by simpa using write) ⟨⟨_, _, rfl, rfl⟩, quiet⟩
      · refine .unreadable read (by simpa using write) ?_
        intro e member
        cases quiet _ member
  | ok body =>
      dsimp only
      split_ifs with failure
      · refine .failed _ read ?_
        simp only [Bool.or_eq_true, decide_eq_true_eq] at failure
        omega
      · have success : 200 ≤ reply.statusCode ∧ reply.statusCode < 300 := by
          simp only [Bool.or_eq_true, decide_eq_true_eq] at failure
          omega
        cases decoded : json.data body with
        | error err => exact .undecodable read success decoded
        | ok data => exact .decoded read success decoded

structure Sends (setting : Setting) : Prop where
  url : setting.buildURL = none
  request : setting.buildRequest = none
  auth : setting.addAuth = none
  reached : World.reached setting.world = true

section Law

variable {δ : Type} (json : Decoder δ) (wording : Wording) (brokerAlias : String) (retryMax : Nat)
  (op : Operation) (retrySafe retryUnsafe : Bool) (setting : Setting)

def OutcomeLaw : Prop :=
  ∀ t err, (execute json retryMax op retrySafe retryUnsafe setting).tries.getLast? = some t →
    t.attempt.wroteHeaders = true → unauthorized t.attempt = false →
    (execute json retryMax op retrySafe retryUnsafe setting).result = .error err →
    (∀ e, err ≠ [.semp e]) → Reported wording brokerAlias err

/-- A reply that `Do` hands on and `Execute` loses. -/
inductive Loses (a : Attempt) : Prop where
  | undecodable (reply : Reply) (accepted : Accepted ⟨op.method, retrySafe, retryUnsafe⟩ a reply)
      (body : List UInt8) (read : readCappedBody reply.body maxSEMPResponseBytes = .ok body)
      (success : 200 ≤ reply.statusCode ∧ reply.statusCode < 300)
      (err : Foreign) (garbled : json.data body = .error err)
  | unreadable (reply : Reply) (accepted : Accepted ⟨op.method, retrySafe, retryUnsafe⟩ a reply)
      (err : Chain) (lost : readCappedBody reply.body maxSEMPResponseBytes = .error err)
      (other : op.method ≠ methodPost ∧ op.method ≠ methodPatch)

/-- The last attempt of the request is written, is not refused with a 401, and its reply is lost. -/
def Lapse : Prop :=
  Sends setting ∧ ∃ a, a = lastAttempt retryMax ⟨op.method, retrySafe, retryUnsafe⟩
    setting.world.attempts ∧ a.wroteHeaders = true ∧ unauthorized a = false ∧
    Loses json op retrySafe retryUnsafe a

variable {json wording brokerAlias retryMax op retrySafe retryUnsafe setting}

theorem execute_unsent (unsent : ¬ Sends setting) :
    (execute json retryMax op retrySafe retryUnsafe setting).tries = [] := by
  unfold execute
  cases url : setting.buildURL with
  | some err => rfl
  | none =>
      cases request : setting.buildRequest with
      | some err => rfl
      | none =>
          cases auth : setting.addAuth with
          | some err => rfl
          | none =>
              have turned : ¬ World.reached setting.world = true := fun reached =>
                unsent ⟨url, request, auth, reached⟩
              have none := doRequest_tries retryMax ⟨op.method, retrySafe, retryUnsafe⟩ setting.world
              rw [if_neg turned] at none
              dsimp only
              split <;> exact none

theorem execute_sent (sends : Sends setting) :
    execute json retryMax op retrySafe retryUnsafe setting =
      ⟨(doRequest retryMax ⟨op.method, retrySafe, retryUnsafe⟩ setting.world).tries,
        match (doRequest retryMax ⟨op.method, retrySafe, retryUnsafe⟩ setting.world).result with
        | .error err => .error (.text s!"executing {op.id}" :: err.amend (describe json op))
        | .ok reply => readReply json op reply⟩ := by
  simp only [execute, sends.url, sends.request, sends.auth]
  cases (doRequest retryMax ⟨op.method, retrySafe, retryUnsafe⟩ setting.world).result <;> rfl

theorem reply_reported_iff {a : Attempt} {reply : Reply}
    (accepted : Accepted ⟨op.method, retrySafe, retryUnsafe⟩ a reply) :
    (∀ err, readReply json op reply = .error err → (∀ e, err ≠ [.semp e]) →
      Reported wording brokerAlias err) ↔ ¬ Loses json op retrySafe retryUnsafe a := by
  have only {other : Reply}
      (another : Accepted ⟨op.method, retrySafe, retryUnsafe⟩ a other) : other = reply :=
    Outcome.answered.inj (another.answered.symm.trans accepted.answered)
  have cases := readReply_cases json op reply
  generalize readReply json op reply = result at cases
  cases cases with
  | unreadable lost other silent =>
      constructor
      · intro reported
        obtain ⟨⟨e, member, -⟩, -, -⟩ := reported _ rfl nofun
        rcases List.mem_cons.mp member with same | member
        · cases same
        · exact absurd member (silent e)
      · intro kept
        exact absurd (.unreadable reply accepted _ lost other) kept
  | lost lost write unknown =>
      constructor
      · rintro - (⟨_, another, body, read⟩ | ⟨_, another, err, -, other⟩)
        · rw [only another, lost] at read
          cases read
        · rcases write with post | patch
          · exact other.1 post
          · exact other.2 patch
      · rintro - err same -
        obtain rfl := Except.error.inj same
        exact unknown.reported wording brokerAlias _
  | failed e read failure =>
      constructor
      · rintro - (⟨_, another, body, -, success⟩ | ⟨_, another, err, lost⟩)
        · rw [only another] at success
          exact failure success
        · rw [only another, read] at lost
          cases lost
      · rintro - err same other
        exact absurd (Except.error.inj same).symm (other e)
  | undecodable read success garbled =>
      constructor
      · intro reported
        obtain ⟨⟨e, member, -⟩, -, -⟩ := reported _ rfl nofun
        simp at member
      · intro kept
        exact absurd (.undecodable reply accepted _ read success _ garbled) kept
  | decoded read success decoded =>
      constructor
      · rintro - (⟨_, another, body, read', -, err, garbled⟩ | ⟨_, another, err, lost⟩)
        · rw [only another, read] at read'
          obtain rfl := Except.ok.inj read'
          cases decoded.symm.trans garbled
        · rw [only another, read] at lost
          cases lost
      · rintro - err same
        cases same

theorem outcomeLaw_iff {t : Try}
    (last : (execute json retryMax op retrySafe retryUnsafe setting).tries.getLast? = some t) :
    OutcomeLaw json wording brokerAlias retryMax op retrySafe retryUnsafe setting ↔
      (t.attempt.wroteHeaders = true → unauthorized t.attempt = false → ∀ err,
        (execute json retryMax op retrySafe retryUnsafe setting).result = .error err →
        (∀ e, err ≠ [.semp e]) → Reported wording brokerAlias err) := by
  constructor
  · intro all wrote other err
    exact all t err last wrote other
  · intro one u err there
    obtain rfl := Option.some.inj (last.symm.trans there)
    exact fun wrote other => one wrote other err

theorem lapse_iff (sends : Sends setting) {a : Attempt}
    (last : a = lastAttempt retryMax ⟨op.method, retrySafe, retryUnsafe⟩ setting.world.attempts) :
    Lapse json retryMax op retrySafe retryUnsafe setting ↔ a.wroteHeaders = true ∧
      unauthorized a = false ∧ Loses json op retrySafe retryUnsafe a := by
  constructor
  · rintro ⟨-, a, rfl, rest⟩
    rwa [last]
  · intro rest
    exact ⟨sends, a, last, rest⟩

theorem outcome_unknown_iff (write : isWrite ⟨op.method, retrySafe, retryUnsafe⟩ = true) :
    OutcomeLaw json wording brokerAlias retryMax op retrySafe retryUnsafe setting ↔
      ¬ Lapse json retryMax op retrySafe retryUnsafe setting := by
  by_cases sends : Sends setting
  · have looped := retryLoop_looped setting.world.attempts retryMax 0
      (.new ⟨op.method, retrySafe, retryUnsafe⟩) false
    obtain ⟨t, ends⟩ := looped.ends
    have last : (doRequest retryMax ⟨op.method, retrySafe, retryUnsafe⟩
        setting.world).tries.getLast? = some t := by
      rw [doRequest_tries, if_pos sends.reached, ends.last]
    have attempt := looped.last_attempt write ends.last
    have here : (execute json retryMax op retrySafe retryUnsafe setting).tries.getLast? = some t := by
      rw [execute_sent sends]
      exact last
    rw [outcomeLaw_iff here, lapse_iff sends attempt, not_and, execute_sent sends]
    refine forall_congr' fun wrote => ?_
    rw [not_and]
    refine forall_congr' fun other => ?_
    rcases write_result write sends.reached last wrote other with
      ⟨reply, accepted, ok⟩ | ⟨rejected, err, failed, unknown⟩
    · rw [ok]
      exact reply_reported_iff accepted
    · rw [failed]
      constructor
      · rintro - (⟨reply, accepted⟩ | ⟨reply, accepted⟩)
        · exact rejected reply accepted
        · exact rejected reply accepted
      · rintro - err' same -
        obtain rfl := Except.error.inj same
        exact (unknown.amend (describe_marked json op)).reported wording brokerAlias _
  · constructor
    · rintro - ⟨sent, -⟩
      exact sends sent
    · intro _ t err last
      rw [execute_unsent sends] at last
      cases last

end Law

-- A create that times out after it was sent.
theorem outcome_unknown_of_timeout : ∃ (json : Decoder Unit) (wording : Wording) (setting : Setting),
    (execute json 10 ⟨"createMsgVpnQueue", "POST"⟩ false false setting).result = .error
      [.text "executing createMsgVpnQueue", .retriesExhausted ⟨0, 1, true, [], ""⟩,
        .foreign (.named "net/http: timeout awaiting response headers")] ∧
    OutcomeLaw json wording "prod" 10 ⟨"createMsgVpnQueue", "POST"⟩ false false setting := by
  let attempt : Attempt := {
    wroteHeaders := true
    outcome := .failed none [.named "net/http: timeout awaiting response headers"]
    ctxErr := none
    policy := (true, none)
    authResult := ⟨false, false⟩
    backoff := none
    addAuth := none }
  let setting : Setting := ⟨none, none, none, ⟨none, none, fun _ => attempt⟩⟩
  refine ⟨⟨fun _ => .ok (), fun _ => none⟩, ⟨fun _ _ _ => "", fun _ _ => "", fun _ _ => ("", []), id,
    fun _ => false⟩, setting, rfl, ?_⟩
  rw [outcome_unknown_iff (by decide)]
  rintro ⟨-, a, last, -, -, lost⟩
  have unanswered (reply : Reply) : a.outcome ≠ .answered reply := by
    simp [last, lastAttempt, setting, attempt]
  rcases lost with ⟨reply, accepted⟩ | ⟨reply, accepted⟩
  · exact unanswered reply accepted.answered
  · exact unanswered reply accepted.answered

-- A create that is answered with 200 and `<html>`.
theorem outcome_lost_in_decoding : ¬ ∀ (json : Decoder Unit) (wording : Wording)
    (brokerAlias : String) (retryMax : Nat) (op : Operation) (retrySafe retryUnsafe : Bool)
    (setting : Setting), isWrite ⟨op.method, retrySafe, retryUnsafe⟩ = true →
    OutcomeLaw json wording brokerAlias retryMax op retrySafe retryUnsafe setting := by
  intro law
  let attempt : Attempt := {
    wroteHeaders := true
    outcome := .answered ⟨200, ⟨[60, 104, 116, 109, 108, 62], none⟩⟩
    ctxErr := none
    policy := (false, none)
    authResult := ⟨false, false⟩
    backoff := none
    addAuth := none }
  let setting : Setting := ⟨none, none, none, ⟨none, none, fun _ => attempt⟩⟩
  let json : Decoder Unit := ⟨fun _ => .error (.named "invalid character"), fun _ => none⟩
  have result : (execute json 10 ⟨"createMsgVpnQueue", "POST"⟩ false false setting).result = .error
      [.text "parsing JSON response for createMsgVpnQueue", .foreign (.named "invalid character")] :=
    rfl
  have reported := law json
    ⟨fun _ _ _ => "", fun _ _ => "", fun _ _ => ("", []), id, fun _ => false⟩ "prod" 10
    ⟨"createMsgVpnQueue", "POST"⟩ false false setting (by decide) _ _ rfl rfl rfl result (by simp)
  obtain ⟨e, member, -⟩ := reported.marked
  simp at member

end BrokerMcp.Proof.Retry
