import BrokerMcp.Proof.Retry.Write
import BrokerMcp.Resilience.Audit

namespace BrokerMcp.Proof.Retry
open Resilience

def Reaches (t : Try) : Prop :=
  t.attempt.ctxErr = none ∧ guarded t.before = false ∧ t.attempt.outcome.status? = some 401

def heard (a : Attempt) : Option Nat := if a.ctxErr.isNone then a.outcome.status? else none

def observed (tries : List Try) : List Nat := tries.filterMap fun t => heard t.attempt

def flags (state : RetryState) : Bool × Bool := (state.auth401Retried, state.authRecovered)

def note (seen : Bool × Bool) (code : Nat) : Bool × Bool :=
  if code = 401 then (true, false) else (seen.1, seen.1 || seen.2)

theorem checkStatus_flags (state : RetryState) (result : AuthFailureResult) (code : Nat) :
    flags (checkStatus state result code).state = note (flags state) code := by
  by_cases unauthorized : code = 401
  · unfold checkStatus note
    rw [if_pos unauthorized, if_pos unauthorized]
    dsimp only
    split_ifs with spent
    · rfl
    · rfl
    · simpa [flags] using spent
  · have kept : flags (recovered state) = note (flags state) code := by
      unfold note recovered flags
      rw [if_neg unauthorized]
      cases retried : state.auth401Retried <;> simp [retried]
    rw [checkStatus_other state result unauthorized, ← kept]
    split_ifs <;> rfl

theorem checkRetry_flags (state : RetryState) (guard : guarded state = false) (a : Attempt) :
    flags (checkRetry state a).state = (heard a).toList.foldl note (flags state) := by
  cases live : a.ctxErr with
  | some err => simp [checkRetry, heard, live]
  | none =>
      rw [checkRetry_unguarded live guard]
      cases outcome : a.outcome with
      | failed resp err =>
          dsimp only
          split_ifs <;> simp [heard, live, outcome, Outcome.status?]
      | answered reply =>
          rw [heard, live, outcome]
          exact checkStatus_flags state a.authResult reply.statusCode

theorem prepareRetry_flags (state : RetryState) (addAuth : Option Chain) :
    flags (prepareRetry state addAuth).1 = flags state := by
  unfold prepareRetry
  split_ifs <;> rfl

/-- A chain under the method guard sees one attempt and leaves its state alone. -/
theorem retryLoop_guarded (attempts : Nat → Attempt) (remain i : Nat) {state : RetryState}
    (reauthed : Bool) (guard : guarded state = true) :
    flags (retryLoop attempts remain i state reauthed).state = flags state ∧
      ∀ t ∈ (retryLoop attempts remain i state reauthed).tries, ¬ Reaches t := by
  obtain ⟨t, here⟩ : ∃ t, t = attempted state (attempts i) reauthed := ⟨_, rfl⟩
  have still : guarded t.before = true := by
    rw [here]
    exact guard
  have declined : (checkRetry t.before (attempts i)).retry = false ∧
      (checkRetry t.before (attempts i)).state = t.before := checkRetry_guarded still
  have refused : t.verdict.retry = false := by
    subst here
    exact declined.1
  have once : retryLoop attempts remain i state reauthed =
      ⟨[t], t.verdict.state, finish t.attempt false none t.verdict.err (i + 1)⟩ := by
    cases remain with
    | zero => simp [retryLoop_zero attempts i state reauthed t here, refused]
    | succ remain => simp [retryLoop_succ attempts remain i state reauthed t here, refused]
  rw [once]
  constructor
  · subst here
    exact (congrArg flags declined.2).trans rfl
  · intro u member
    obtain rfl := List.mem_singleton.mp member
    intro reaches
    cases still.symm.trans reaches.2.1

theorem attempted_flags {state : RetryState} {a : Attempt} {reauthed : Bool} {t : Try}
    (guard : guarded state = false) (here : t = attempted state a reauthed) :
    guarded t.before = false ∧ guarded t.verdict.state = false ∧
      flags t.verdict.state = (observed [t]).foldl note (flags state) := by
  subst here
  have kept := (checkRetry_same (written state a) a).1.guarded
  refine ⟨guard, kept.trans guard, ?_⟩
  have first := checkRetry_flags (written state a) guard a
  refine first.trans ?_
  cases seen : heard a <;> simp [observed, attempted, seen] <;> rfl

theorem retryLoop_flags (attempts : Nat → Attempt) (remain i : Nat) {state : RetryState}
    (reauthed : Bool) (guard : guarded state = false) :
    flags (retryLoop attempts remain i state reauthed).state =
      (observed (retryLoop attempts remain i state reauthed).tries).foldl note (flags state) ∧
      ∀ t ∈ (retryLoop attempts remain i state reauthed).tries, guarded t.before = false := by
  induction remain generalizing i state reauthed with
  | zero =>
      obtain ⟨t, here⟩ : ∃ t, t = attempted state (attempts i) reauthed := ⟨_, rfl⟩
      obtain ⟨still, -, seen⟩ := attempted_flags guard here
      rw [retryLoop_zero attempts i state reauthed t here]
      split_ifs <;> exact ⟨seen, List.forall_mem_singleton.mpr still⟩
  | succ remain ih =>
      obtain ⟨t, here⟩ : ∃ t, t = attempted state (attempts i) reauthed := ⟨_, rfl⟩
      obtain ⟨still, open_, seen⟩ := attempted_flags guard here
      rw [retryLoop_succ attempts remain i state reauthed t here]
      split_ifs
      · exact ⟨seen, List.forall_mem_singleton.mpr still⟩
      · cases t.attempt.backoff with
        | some err => exact ⟨seen, List.forall_mem_singleton.mpr still⟩
        | none =>
            have kept := prepareRetry_flags t.verdict.state t.attempt.addAuth
            have same : guarded (prepareRetry t.verdict.state t.attempt.addAuth).1 = false := by
              rw [prepareRetry_frame]
              exact open_
            dsimp only
            cases (prepareRetry t.verdict.state t.attempt.addAuth).2.2 with
            | some err => exact ⟨kept.trans seen, List.forall_mem_singleton.mpr still⟩
            | none =>
                obtain ⟨later, others⟩ :=
                  ih (i + 1) (prepareRetry t.verdict.state t.attempt.addAuth).2.1 same
                refine ⟨?_, List.forall_mem_cons.mpr ⟨still, others⟩⟩
                rw [kept, seen, ← List.foldl_append, observed, observed, ← List.filterMap_append]
                  at later
                exact later

theorem foldl_note (codes : List Nat) :
    codes.foldl note (false, false) =
      (decide (401 ∈ codes), decide (401 ∈ codes ∧ codes.getLast? ≠ some 401)) := by
  induction codes using List.reverseRecOn with
  | nil => rfl
  | append_singleton codes code ih =>
      rw [List.foldl_append, ih]
      by_cases unauthorized : code = 401
      · simp [note, unauthorized]
      · have other : (401 : Nat) ≠ code := Ne.symm unauthorized
        by_cases before : 401 ∈ codes
        · simp [note, unauthorized, other, before]
        · simp [note, unauthorized, other, before]

theorem doRequest_sent (retryMax : Nat) (req : Request) {world : World}
    (admitted : world.admission = none) (wrapped : world.wrapping = none) :
    (doRequest retryMax req world).tries =
        (retryLoop world.attempts retryMax 0 (.new req) false).tries ∧
      (doRequest retryMax req world).state =
        (retryLoop world.attempts retryMax 0 (.new req) false).state := by
  unfold doRequest
  rw [admitted, wrapped]
  dsimp only
  split
  · exact ⟨rfl, rfl⟩
  · split_ifs <;> exact ⟨rfl, rfl⟩

theorem reaches_iff {t : Try} (guard : guarded t.before = false) :
    Reaches t ↔ heard t.attempt = some 401 := by
  unfold Reaches heard
  cases t.attempt.ctxErr <;> simp [guard]

theorem record_of_flags {d : Auditor} (on : d.auditLog = true) (named : d.brokerAlias ≠ "")
    {state : RetryState} {tries : List Try} (guard : ∀ t ∈ tries, guarded t.before = false)
    (seen : flags state = (observed tries).foldl note (false, false)) :
    ((∃ t ∈ tries, Reaches t) →
      ∃ outcome, auditBrokerAuthRetryOutcome d state = [.brokerAuthRetry outcome d.brokerAlias] ∧
        (outcome = .success ↔ (observed tries).getLast? ≠ some 401)) ∧
    ((∀ t ∈ tries, ¬ Reaches t) → auditBrokerAuthRetryOutcome d state = []) := by
  rw [foldl_note] at seen
  obtain ⟨retried, recovered⟩ := Prod.mk.inj seen
  have reached : (∃ t ∈ tries, Reaches t) ↔ 401 ∈ observed tries := by
    rw [observed, List.mem_filterMap]
    exact exists_congr fun t => and_congr_right fun member => reaches_iff (guard t member)
  unfold auditBrokerAuthRetryOutcome
  rw [retried, recovered]
  constructor
  · intro some
    have member := reached.mp some
    have written (outcome : AuditOutcome) :
        auditBrokerAuthRetry d outcome = [.brokerAuthRetry outcome d.brokerAlias] := by
      simp [auditBrokerAuthRetry, on, newEvent, named]
    refine ⟨if (observed tries).getLast? = Option.some 401 then .error else .success, ?_, ?_⟩
    · rw [← written]
      by_cases last : (observed tries).getLast? = Option.some 401
      · simp [member, last]
      · simp [member, last]
    · by_cases last : (observed tries).getLast? = Option.some 401
      · simp [last]
      · simp [last]
  · intro none
    have absent : 401 ∉ observed tries := by
      rw [← reached]
      rintro ⟨t, member, reaches⟩
      exact none t member reaches
    simp [absent]

/-- With auditing on, a `Do` writes one record if an attempt reached the branch for a 401, and none
otherwise; the record tells whether the last response seen under a live context was another one. -/
theorem auth_retry_audited (d : Auditor) (retryMax : Nat) (req : Request) (world : World)
    (on : d.auditLog = true) (named : d.brokerAlias ≠ "") :
    ((∃ t ∈ (doRequest retryMax req world).tries, Reaches t) →
      ∃ outcome, auditRecords d retryMax req world = [.brokerAuthRetry outcome d.brokerAlias] ∧
        (outcome = .success ↔ (observed (doRequest retryMax req world).tries).getLast? ≠ some 401)) ∧
    ((∀ t ∈ (doRequest retryMax req world).tries, ¬ Reaches t) →
      auditRecords d retryMax req world = []) := by
  unfold auditRecords
  cases admission : world.admission with
  | some err => simp [doRequest, admission]
  | none =>
      cases wrapping : world.wrapping with
      | some err => simp [doRequest, admission, wrapping]
      | none =>
          obtain ⟨tries, state⟩ := doRequest_sent retryMax req admission wrapping
          rw [tries, state]
          cases guard : guarded (.new req) with
          | true =>
              obtain ⟨kept, unreached⟩ := retryLoop_guarded world.attempts retryMax 0 false guard
              refine ⟨fun ⟨t, member, reaches⟩ => (unreached t member reaches).elim, fun _ => ?_⟩
              have never : (retryLoop world.attempts retryMax 0 (.new req) false).state.auth401Retried
                  = false := congrArg Prod.fst kept
              simp [auditBrokerAuthRetryOutcome, never]
          | false =>
              obtain ⟨seen, open_⟩ := retryLoop_flags world.attempts retryMax 0 false guard
              exact record_of_flags on named open_ seen

def answeredWith (code : Nat) : Attempt where
  wroteHeaders := true
  outcome := .answered ⟨code, ⟨[], none⟩⟩
  ctxErr := none
  policy := (false, none)
  authResult := ⟨true, true⟩
  backoff := none
  addAuth := none

-- 401, recovered, 503, and 401 again.
theorem auth_retry_audited_relapse :
    auditRecords ⟨true, "prod"⟩ 10 ⟨"GET", false, false⟩
        ⟨none, none, fun i => answeredWith (if i = 1 then 503 else 401)⟩ =
      [.brokerAuthRetry .error "prod"] := by
  obtain ⟨outcome, written, success⟩ := (auth_retry_audited ⟨true, "prod"⟩ 10
    ⟨"GET", false, false⟩ ⟨none, none, fun i => answeredWith (if i = 1 then 503 else 401)⟩ rfl
    (by decide)).1 ⟨_, .head _, rfl, rfl, rfl⟩
  have failed : outcome ≠ .success := by
    rw [Ne, success, not_not]
    rfl
  cases outcome with
  | success => exact absurd rfl failed
  | error => exact written

end BrokerMcp.Proof.Retry
