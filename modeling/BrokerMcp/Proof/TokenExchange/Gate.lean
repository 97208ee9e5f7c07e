import BrokerMcp.Proof.TokenExchange.Throttle
import BrokerMcp.TokenExchange.Gate

/-!
# The gate is a clamped running maximum

Every step of a call on the gate is a step of `CasMax`, whose raisers are the calls; what a call aims
at is the instant that its header asks for.
-/

namespace BrokerMcp.Proof.TokenExchange
open BrokerMcp.TokenExchange Transition
open Text (atoi trimSpace)

def candidateOf (e : Exchanger) (format : Format) (call : GateCall) : Option Int :=
  call.raisedAt.bind fun now =>
    let result := parseRetryAfter format call.headerValues call.parsedAt
    if result.ok = true ∧ 0 < result.delay then some (now + min result.delay e.ceiling) else none

/-- Absent, zero, negative, too large, in the past, or neither a number nor a date. -/
def Ineffective (format : Format) (call : GateCall) : Prop :=
  call.headerValues.headD "" = "" ∨
    let trimmed := trimSpace (call.headerValues.headD "")
    ((atoi trimmed).2 = true ∧ ((atoi trimmed).1 ≤ 0 ∨ (atoi trimmed).1 > maxExpiresInSeconds)) ∨
    ((atoi trimmed).2 = false ∧ ∀ when, format.parseTime trimmed = some when → when ≤ call.parsedAt)

def Int64 (n : Int) : Prop := -maxDuration - 1 ≤ n ∧ n ≤ maxDuration

def hundredYears : Int := maxExpiresInSeconds * second

section Headers

variable {e : Exchanger} {format : Format} {call : GateCall}

theorem parse_int64 (format : Format) (values : List String) (now : Int) :
    0 ≤ (parseRetryAfter format values now).delay ∧
      (parseRetryAfter format values now).delay ≤ maxDuration := by
  have zero : (0 : Int) ≤ 0 ∧ (0 : Int) ≤ maxDuration := by decide
  unfold parseRetryAfter
  split
  · exact zero
  · dsimp only
    split_ifs with empty parsed negative large
    · exact zero
    · exact zero
    · exact zero
    · -- The bound comes before the product, which therefore stays far below the largest duration.
      simp only [second, maxDuration, maxExpiresInSeconds] at *
      omega
    · split
      · rename_i when found
        dsimp only
        split_ifs with later
        · refine ⟨later.le, ?_⟩
          simp only [sub, maxDuration] at *
          omega
        · exact zero
      · exact zero

theorem parse_ineffective (futile : Ineffective format call) :
    (call.result format).ok = false ∨ (call.result format).delay ≤ 0 := by
  unfold GateCall.result parseRetryAfter
  unfold Ineffective at futile
  cases values : call.headerValues with
  | nil => exact .inl rfl
  | cons raw rest =>
      simp only [values, List.headD_cons] at futile ⊢
      split_ifs with empty parsed negative large
      · exact .inl rfl
      · exact .inr le_rfl
      · exact .inl rfl
      · rcases futile with absurd | ⟨-, futile⟩ | ⟨failed, -⟩
        · exact (empty absurd).elim
        · refine .inr ?_
          have zero : (atoi (trimSpace raw)).1 = 0 := by omega
          simp [zero]
        · exact absurd parsed (by simp [failed])
      · split
        · rename_i when found
          rcases futile with absurd | ⟨good, -⟩ | ⟨-, past⟩
          · exact (empty absurd).elim
          · exact absurd good parsed
          · have past := past when found
            refine .inr ?_
            have none : ¬ sub when call.parsedAt > 0 := by
              simp only [sub, maxDuration]
              omega
            simp [none]
        · exact .inl rfl

theorem delay_eq (e : Exchanger) (format : Format) (call : GateCall) :
    call.delay e format =
      if (call.result format).ok = true ∧ 0 < (call.result format).delay then
        some (min (call.result format).delay e.ceiling)
      else none := by
  have ceiling := ceiling_pos e
  unfold GateCall.delay
  dsimp only
  rw [clampRetryAfter_eq_min]
  cases good : (call.result format).ok with
  | false => simp
  | true =>
      by_cases positive : 0 < (call.result format).delay
      · have kept : ¬ min (call.result format).delay e.ceiling ≤ 0 := by omega
        simp [positive, kept]
      · have none : min (call.result format).delay e.ceiling ≤ 0 := by omega
        simp [positive, none]

theorem candidate_proceed (now : Int) :
    candidateOf e format (call.proceed e format now) = (call.delay e format).map (now + ·) := by
  have same := delay_eq e format call
  unfold candidateOf GateCall.proceed
  rw [same]
  unfold GateCall.result
  split_ifs with heeded
  · simp [heeded]
  · rfl

theorem candidate_le {instant : Int} (found : candidateOf e format call = some instant) :
    ∃ now, call.raisedAt = some now ∧ now < instant ∧ instant ≤ now + e.ceiling := by
  obtain ⟨now, read, aimed⟩ := Option.bind_eq_some_iff.mp found
  dsimp only at aimed
  split_ifs at aimed with heeded
  obtain rfl := Option.some.inj aimed
  have ceiling := ceiling_pos e
  exact ⟨now, read, by omega, by omega⟩

end Headers

section Calls

variable {e : Exchanger} {format : Format} {s t : GateState} {a : GateAction}

def casAction (e : Exchanger) (format : Format) (s : GateState) :
    GateAction → CasMax.Action Int
  | .exhausted _ _ => .enter
  | .proceed c now => .aim c ((s.calls[c]?.bind (GateCall.delay e format)).map (now + ·))
  | .load c => .load c
  | .swap c => .swap c

theorem step_cas (taken : s.step e format a = some t) :
    CasMax.step s.gate (casAction e format s a) = some t.gate := by
  cases a with
  | exhausted values now =>
      obtain rfl := Option.some.inj taken
      rfl
  | proceed c now =>
      obtain ⟨call, here, taken⟩ := Option.bind_eq_some_iff.mp taken
      obtain ⟨gate, aimed, taken⟩ := Option.bind_eq_some_iff.mp taken
      obtain rfl := Option.some.inj taken
      simpa [casAction, here] using aimed
  | load c =>
      obtain ⟨gate, loaded, rfl⟩ := Option.map_eq_some_iff.mp taken
      exact loaded
  | swap c =>
      obtain ⟨gate, swapped, rfl⟩ := Option.map_eq_some_iff.mp taken
      exact swapped

def Tracks (e : Exchanger) (format : Format) (s : GateState) : Prop :=
  s.gate.raisers.map CasMax.Phase.target? = s.calls.map (candidateOf e format)

theorem targets_same {gate gate' : CasMax.State Int} {b : CasMax.Action Int}
    (moves : CasMax.Moves gate b gate') (inside : (∃ c, b = .load c) ∨ ∃ c, b = .swap c) :
    gate'.raisers.map CasMax.Phase.target? = gate.raisers.map CasMax.Phase.target? := by
  cases moves with
  | enter => rcases inside with ⟨c, same⟩ | ⟨c, same⟩ <;> cases same
  | aim => rcases inside with ⟨c, same⟩ | ⟨c, same⟩ <;> cases same
  | enough here _ => exact Cells.map_set_same here rfl
  | load here _ => exact Cells.map_set_same here rfl
  | swap here => exact Cells.map_set_same here rfl
  | lose here _ => exact Cells.map_set_same here rfl

theorem Tracks.step (tracks : Tracks e format s) (taken : s.step e format a = some t) :
    Tracks e format t := by
  have moves := CasMax.step_moves (step_cas taken)
  unfold Tracks at *
  cases a with
  | exhausted values now =>
      obtain rfl := Option.some.inj taken
      simp [tracks, CasMax.Phase.target?, candidateOf]
  | proceed c now =>
      obtain ⟨call, here, taken⟩ := Option.bind_eq_some_iff.mp taken
      obtain ⟨gate, aimed, taken⟩ := Option.bind_eq_some_iff.mp taken
      obtain rfl := Option.some.inj taken
      cases CasMax.step_moves aimed with
      | aim entered =>
          rw [List.map_set, List.map_set, tracks, candidate_proceed]
          cases call.delay e format <;> rfl
  | load c =>
      obtain ⟨gate, loaded, rfl⟩ := Option.map_eq_some_iff.mp taken
      rw [targets_same moves (.inl ⟨c, rfl⟩), tracks]
  | swap c =>
      obtain ⟨gate, swapped, rfl⟩ := Option.map_eq_some_iff.mp taken
      rw [targets_same moves (.inr ⟨c, rfl⟩), tracks]

theorem Tracks.target (tracks : Tracks e format s) {c : Nat} {call : GateCall}
    {phase : CasMax.Phase Int} (here : s.calls[c]? = some call)
    (raiser : s.gate.raisers[c]? = some phase) : phase.target? = candidateOf e format call := by
  have same := congrArg (·[c]?) tracks
  simpa [here, raiser] using same

theorem Tracks.call (tracks : Tracks e format s) {c : Nat} {phase : CasMax.Phase Int}
    (raiser : s.gate.raisers[c]? = some phase) : ∃ call, s.calls[c]? = some call := by
  have same := congrArg (·[c]?) tracks
  simp only [List.getElem?_map, raiser, Option.map_some] at same
  obtain ⟨call, here, -⟩ := Option.map_eq_some_iff.mp same.symm
  exact ⟨call, here⟩

theorem Tracks.targets_eq (tracks : Tracks e format s) :
    CasMax.targets s.gate = s.calls.filterMap (candidateOf e format) := by
  have same := congrArg (List.filterMap id) tracks
  simpa [CasMax.targets, List.filterMap_map, Function.comp_def] using same

structure Governed (e : Exchanger) (format : Format) (start : Int) (s : GateState) : Prop where
  sound : CasMax.Sound start s.gate
  tracks : Tracks e format s

theorem governed_start (e : Exchanger) (format : Format) (start : Int) :
    Governed e format start (.start start) :=
  ⟨⟨le_rfl, .inl rfl, nofun⟩, rfl⟩

theorem Governed.step {start : Int} (governed : Governed e format start s)
    (taken : s.step e format a = some t) : Governed e format start t :=
  ⟨(CasMax.step_moves (step_cas taken)).sound governed.sound, governed.tracks.step taken⟩

theorem Governed.eq_max {start : Int} (governed : Governed e format start s)
    (through : s.isOver = true) :
    s.gatedUntil = (s.calls.filterMap (candidateOf e format)).foldr max start := by
  rw [GateState.gatedUntil, ← governed.tracks.targets_eq]
  exact governed.sound.eq_max (List.all_eq_true.mp through)

theorem Governed.le {start : Int} (governed : Governed e format start s)
    (taken : s.step e format a = some t) : s.gatedUntil ≤ t.gatedUntil :=
  (CasMax.step_moves (step_cas taken)).cell_le governed.sound

end Calls

section Runs

variable {e : Exchanger} {format : Format} {start : Int} {s t : GateState}
  {history : List (GateState × GateAction)}

theorem run_governed (governed : Governed e format start s)
    (run : Run (GateState.step e format) s history t) :
    Governed e format start t ∧ ∀ p ∈ history, Governed e format start p.1 :=
  run.invariant governed fun _ _ _ => Governed.step

theorem run_ascends (governed : Governed e format start s)
    (run : Run (GateState.step e format) s history t) :
    (history.map (fun p => p.1.gatedUntil) ++ [t.gatedUntil]).Pairwise (· ≤ ·) ∧
      s.gatedUntil ≤ t.gatedUntil := by
  induction run with
  | nil => exact ⟨by simp, le_rfl⟩
  | @cons s m t a history taken rest ih =>
      have first := governed.le taken
      obtain ⟨later, last⟩ := ih (governed.step taken)
      have above : ∀ x ∈ history.map (fun p => p.1.gatedUntil) ++ [t.gatedUntil],
          s.gatedUntil ≤ x := by
        intro x member
        refine first.trans ?_
        cases rest with
        | nil =>
            obtain rfl : x = m.gatedUntil := by simpa using member
            exact le_rfl
        | cons taken' rest' =>
            rw [List.map_cons, List.cons_append] at member later
            rcases List.mem_cons.mp member with rfl | member
            · exact le_rfl
            · exact (List.pairwise_cons.mp later).1 x member
      refine ⟨?_, first.trans last⟩
      rw [List.map_cons, List.cons_append]
      exact List.pairwise_cons.mpr ⟨above, later⟩

def Installs (e : Exchanger) (format : Format) (c : Nat) (p : GateState × GateAction) : Prop :=
  p.2 = .swap c ∧ ∃ call t, p.1.calls[c]? = some call ∧ p.1.step e format p.2 = some t ∧
    p.1.gatedUntil < t.gatedUntil ∧ candidateOf e format call = some t.gatedUntil

theorem installs_iff (governed : Governed e format start s) {a : GateAction}
    (taken : s.step e format a = some t) (c : Nat) :
    Installs e format c (s, a) ↔ a = .swap c ∧ s.gate.installs c := by
  constructor
  · rintro ⟨rfl, call, t', here, taken', more, -⟩
    refine ⟨rfl, ?_⟩
    rcases CasMax.swap_cases (step_cas taken') with ⟨target, holds, -⟩ | ⟨-, same⟩
    · exact ⟨target, holds⟩
    · exact absurd same.symm more.ne
  · rintro ⟨rfl, holds⟩
    refine ⟨rfl, ?_⟩
    rcases CasMax.swap_cases (step_cas taken) with ⟨target, loaded, reached⟩ | ⟨lost, -⟩
    · obtain ⟨call, here⟩ := governed.tracks.call loaded
      have short := (governed.sound.fits c _ loaded).2
      have aimed := governed.tracks.target here loaded
      refine ⟨call, t, here, taken, ?_, ?_⟩
      · rw [GateState.gatedUntil, GateState.gatedUntil, reached]
        exact short
      · rw [GateState.gatedUntil, reached, ← aimed]
        rfl
    · exact absurd holds lost

theorem raised_step (governed : Governed e format start s) {a : GateAction}
    (taken : s.step e format a = some t) (c : Nat) :
    t.reportsRaised c = true ↔ s.reportsRaised c = true ∨ Installs e format c (s, a) := by
  rw [installs_iff governed taken]
  have moved := (CasMax.step_moves (step_cas taken)).raised_iff c
  refine moved.trans (or_congr_right ?_)
  constructor
  · rintro ⟨i, swapped, rfl, holds⟩
    cases a with
    | swap d =>
        obtain rfl := CasMax.Action.swap.inj swapped
        exact ⟨rfl, holds⟩
    | _ => cases swapped
  · rintro ⟨rfl, holds⟩
    exact ⟨c, rfl, rfl, holds⟩

theorem run_raised (governed : Governed e format start s)
    (run : Run (GateState.step e format) s history t) (c : Nat) :
    t.reportsRaised c = true ↔
      s.reportsRaised c = true ∨ ∃ p ∈ history, Installs e format c p := by
  induction run with
  | nil => simp
  | @cons s m t a history taken rest ih =>
      rw [ih (governed.step taken), raised_step governed taken, or_assoc]
      refine or_congr_right ?_
      simp

theorem not_ineffective {call : GateCall} {instant : Int}
    (asks : candidateOf e format call = some instant) : ¬ Ineffective format call := by
  intro futile
  obtain ⟨now, -, aimed⟩ := Option.bind_eq_some_iff.mp asks
  dsimp only at aimed
  split_ifs at aimed with heeded
  rcases parse_ineffective futile with bad | nothing
  · cases heeded.1.symm.trans bad
  · exact absurd heeded.2 (not_lt.mpr nothing)

theorem step_changes (governed : Governed e format start s) {a : GateAction}
    (taken : s.step e format a = some t) (changed : t.gatedUntil ≠ s.gatedUntil) :
    ∃ c call, a = .swap c ∧ s.calls[c]? = some call ∧
      candidateOf e format call = some t.gatedUntil ∧ ¬ Ineffective format call := by
  obtain ⟨i, swapped⟩ := (CasMax.cell_cases (step_cas taken)).resolve_left changed
  cases a with
  | swap c =>
      rcases CasMax.swap_cases (step_cas taken) with ⟨target, loaded, reached⟩ | ⟨-, same⟩
      · obtain ⟨call, here⟩ := governed.tracks.call loaded
        have aimed := governed.tracks.target here loaded
        have asks : candidateOf e format call = some t.gatedUntil := by
          rw [GateState.gatedUntil, reached, ← aimed]
          rfl
        exact ⟨c, call, rfl, here, asks, not_ineffective asks⟩
      · exact absurd same changed
  | _ => cases swapped

theorem candidate_int64 {call : GateCall} {instant now : Int} (ceiling : e.ceiling < hundredYears)
    (asks : candidateOf e format call = some instant) (read : call.raisedAt = some now)
    (reading : Int64 now) (clock : now < hundredYears) : Int64 instant := by
  obtain ⟨now', read', above, below⟩ := candidate_le asks
  obtain rfl := Option.some.inj (read.symm.trans read')
  obtain ⟨low, -⟩ := reading
  simp only [Int64, hundredYears, maxDuration, maxExpiresInSeconds, second] at *
  omega

end Runs

theorem swapMax_eq_raise (newUntil : Int) (rivals : List Int) (cur : Int) :
    swapMax newUntil rivals cur = CasMax.raise newUntil rivals cur := by
  induction rivals generalizing cur with
  | nil => rfl
  | cons rival rivals ih => rw [swapMax, CasMax.raise, ih]

def reads (c : Nat) (history : List (GateState × GateAction)) : List Int :=
  history.filterMap fun p =>
    match p.2 with
    | .load d => if d = c then some p.1.gatedUntil else none
    | _ => none

section Exchange

variable {e : Exchanger} {format : Format} {start : Int} {s t : GateState}
  {history : List (GateState × GateAction)} {c : Nat}

theorem reads_cons (e : Exchanger) (format : Format) (s : GateState) (a : GateAction)
    (history : List (GateState × GateAction)) :
    reads c ((s, a) :: history) =
      (CasMax.loads c (s.gate, casAction e format s a)).toList ++ reads c history := by
  unfold reads
  cases a with
  | load d =>
      by_cases same : d = c
      · simp [CasMax.loads, casAction, same, GateState.gatedUntil]
      · simp [CasMax.loads, casAction, same]
  | _ => simp [CasMax.loads, casAction]

theorem run_leaves (governed : Governed e format start s)
    (run : Run (GateState.step e format) s history t) {phase : CasMax.Phase Int}
    (here : s.gate.raisers[c]? = some phase) {target now : Int} {raised : Bool}
    (through : t.gate.raisers[c]? = some (.done target now raised)) :
    CasMax.Leaves (reads c history) now phase := by
  induction run generalizing phase with
  | nil =>
      obtain rfl := Option.some.inj (here.symm.trans through)
      exact ⟨rfl, rfl⟩
  | @cons s m t a history taken rest ih =>
      have moves := CasMax.step_moves (step_cas taken)
      obtain ⟨phase', there⟩ := moves.keeps here
      rw [reads_cons e format]
      exact moves.leaves governed.sound here there (ih (governed.step taken) there through)

theorem raiseGate_call {call : GateCall} {err : ExchangeError}
    (exhausted : err.sentinel = .errExchangeRetriesExhausted)
    (throttle : err.failureClass = .rateLimited)
    (header : err.retryAfterResult = some (call.result format)) (now : Int) (rivals : List Int)
    (gatedUntil : Int) :
    raiseGateOnExhaustedRateLimit e (.exchange err) now rivals gatedUntil =
      match call.delay e format with
      | some delay => CasMax.raise (now + delay) rivals gatedUntil
      | none => gatedUntil := by
  unfold GateCall.delay
  cases good : (call.result format).ok with
  | false => simp [raiseGateOnExhaustedRateLimit, Err.exchange?, exhausted, throttle, header, good]
  | true =>
      rw [raiseGate_throttle e now rivals gatedUntil exhausted throttle header good, raiseGate]
      simp only [Bool.not_true, Bool.false_eq_true, if_false]
      split_ifs
      · rfl
      · exact swapMax_eq_raise _ _ _

/-- An exchange that ends in a throttle leaves the gate as its call does in the midst of others: it
moves it as the loop does on the values that the loads of the call read. -/
theorem exchange_raises_gate {β : Type} (lib : Gobreaker β) (breaker : Breaker β) {idp : Idp}
    {call : GateCall} {err : ExchangeError} (ends : ExhaustedBy e format idp (call.result format) err)
    (governed : Governed e format start s) (here : s.calls[c]? = some call) {m : GateState}
    (proceeds : s.step e format (.proceed c
      ((doExchange e format idp).ended + idp.parseLag + idp.raiseLag)) = some m)
    (run : Run (GateState.step e format) m history t) :
    (call.delay e format = none → ∀ gatedUntil,
      (runExchangeOnce lib e format idp breaker gatedUntil).gatedUntil = gatedUntil) ∧
    ∀ delay target now raised, call.delay e format = some delay →
      t.gate.raisers[c]? = some (.done target now raised) →
      ∃ gatedUntil rivals, reads c history = gatedUntil :: rivals ∧
        (runExchangeOnce lib e format { idp with rivals := rivals } breaker gatedUntil).gatedUntil =
          now := by
  obtain ⟨inner, failed, outcome⟩ := ends.failed
  have raises : ∀ rivals gatedUntil,
      (runExchangeOnce lib e format { idp with rivals := rivals } breaker gatedUntil).gatedUntil =
        match call.delay e format with
        | some delay => CasMax.raise
            ((doExchange e format idp).ended + idp.parseLag + idp.raiseLag + delay) rivals gatedUntil
        | none => gatedUntil := by
    intro rivals gatedUntil
    have failed : (doExchange e format { idp with rivals := rivals }).result = .error inner := failed
    have outcome : classifyRetryOutcome (doExchange e format { idp with rivals := rivals }).attempts
      inner = .exchange err := outcome
    rw [runExchangeOnce_error failed, outcome]
    exact raiseGate_call ends.exhausted ends.throttle ends.header _ _ _
  constructor
  · intro idle gatedUntil
    have kept := raises idp.rivals gatedUntil
    rw [idle] at kept
    exact kept
  · intro delay target now raised asks through
    have aims := step_cas proceeds
    rw [casAction, here, Option.bind_some, asks] at aims
    have loading : m.gate.raisers[c]? = some (.loading
        ((doExchange e format idp).ended + idp.parseLag + idp.raiseLag + delay)) := by
      generalize m.gate = gate at aims
      cases CasMax.step_moves aims with
      | aim entered => rw [Cells.getElem?_set_of_some entered, if_pos rfl]; rfl
    obtain ⟨gatedUntil, rivals, read, left⟩ := run_leaves (governed.step proceeds) run loading through
    refine ⟨gatedUntil, rivals, read, ?_⟩
    rw [raises, asks, left]

/-- Once every call is through, an exchange is held back exactly while some call has asked for it. -/
theorem gateCheck_iff (governed : Governed e format start s) (through : s.isOver = true) {now : Int}
    (clock : 0 ≤ now) :
    gateCheck s.gatedUntil now = true ↔
      now < start ∨ ∃ call ∈ s.calls, ∃ instant, candidateOf e format call = some instant ∧
        now < instant := by
  have held : gateCheck s.gatedUntil now = true ↔ now < s.gatedUntil := by
    simp only [gateCheck, Bool.and_eq_true, decide_eq_true_eq]
    omega
  obtain ⟨member, bound⟩ :=
    CasMax.foldr_max_mem_le start (s.calls.filterMap (candidateOf e format))
  rw [held, governed.eq_max through]
  constructor
  · intro early
    rcases List.mem_cons.mp member with same | asked
    · rw [same] at early
      exact .inl early
    · obtain ⟨call, there, asks⟩ := List.mem_filterMap.mp asked
      exact .inr ⟨call, there, _, asks, early⟩
  · rintro (early | ⟨call, there, instant, asks, early⟩)
    · exact early.trans_le (bound _ (.head _))
    · exact early.trans_le (bound _ (.tail _ (List.mem_filterMap.mpr ⟨call, there, asks⟩)))

end Exchange

/-- Whatever the headers and however the loads and swaps interleave, the gate only rises, ends as the
largest instant asked for, never passes the ceiling of a call, and is moved by no header that asks
for no wait. -/
theorem gate_running_max (e : Exchanger) (format : Format) (start : Int) {s : GateState}
    {history : List (GateState × GateAction)}
    (run : Run (GateState.step e format) (.start start) history s) :
    (history.map (fun p => p.1.gatedUntil) ++ [s.gatedUntil]).Pairwise (· ≤ ·) ∧
    (s.isOver = true →
      s.gatedUntil = (s.calls.filterMap (candidateOf e format)).foldr max start) ∧
    (∀ c, s.reportsRaised c = true ↔ ∃ p ∈ history, Installs e format c p) ∧
    (s.gatedUntil = start ∨ ∃ call ∈ s.calls, ∃ now, call.raisedAt = some now ∧
      s.gatedUntil ≤ now + e.ceiling) ∧
    (∀ p ∈ history, ∀ t, p.1.step e format p.2 = some t → t.gatedUntil ≠ p.1.gatedUntil →
      ∃ c call, p.2 = .swap c ∧ p.1.calls[c]? = some call ∧ ¬ Ineffective format call) ∧
    (∀ seconds, 0 ≤ seconds → seconds ≤ maxExpiresInSeconds → Int64 (seconds * second)) ∧
    (∀ call ∈ s.calls, Int64 (parseRetryAfter format call.headerValues call.parsedAt).delay ∧
      ∀ now instant, e.ceiling < hundredYears → call.raisedAt = some now → Int64 now →
        now < hundredYears → candidateOf e format call = some instant → Int64 instant) := by
  have governed := governed_start e format start
  obtain ⟨final, visited⟩ := run_governed governed run
  refine ⟨(run_ascends governed run).1, ?_, ?_, ?_, ?_, ?_, ?_⟩
  · exact final.eq_max
  · intro c
    refine (run_raised governed run c).trans ⟨fun raised => raised.resolve_left ?_, .inr⟩
    exact Bool.false_ne_true
  · refine final.sound.mem |> List.mem_cons.mp |>.imp_right fun member => ?_
    rw [final.tracks.targets_eq] at member
    obtain ⟨call, there, asks⟩ := List.mem_filterMap.mp member
    obtain ⟨now, read, -, below⟩ := candidate_le asks
    exact ⟨call, there, now, read, below⟩
  · intro p member t taken changed
    obtain ⟨c, call, swapped, here, -, effective⟩ := step_changes (visited p member) taken changed
    exact ⟨c, call, swapped, here, effective⟩
  · intro seconds low high
    simp only [Int64, maxDuration, maxExpiresInSeconds, second] at *
    omega
  · intro call _
    obtain ⟨low, high⟩ := parse_int64 format call.headerValues call.parsedAt
    refine ⟨⟨le_trans (by decide) low, high⟩, ?_⟩
    intro now instant ceiling read reading clock asks
    exact candidate_int64 ceiling asks read reading clock

def numbersOnly : Format := ⟨fun _ => none, fun _ => none, id⟩

def minuteExchanger : Exchanger where
  grantType := .tokenExchange
  tokenExpiryFallback := 0
  maxHonoredRetryAfter := 60 * second
  chainDeadline := 15 * second
  maxRetries := 2

-- Two chains load the open gate; the longer one swaps first, so that the swap of the other fails.
theorem gate_running_max_two_chains : ∃ s history,
    Run (GateState.step minuteExchanger numbersOnly) (.start 0) history s ∧
      s.gatedUntil = 1000 + 10 * second ∧ s.reportsRaised 0 = false ∧
      ∃ p ∈ history, Installs minuteExchanger numbersOnly 1 p := by
  obtain ⟨s, done, reached, lost, won⟩ : ∃ s,
      exec (GateState.step minuteExchanger numbersOnly) (.start 0)
        [.exhausted ["5"] 100, .exhausted [" 10"] 200, .proceed 0 1000, .proceed 1 1000,
          .load 0, .load 1, .swap 1, .swap 0, .load 0] = some s ∧
        s.gatedUntil = 1000 + 10 * second ∧ s.reportsRaised 0 = false ∧
        s.reportsRaised 1 = true :=
    ⟨_, rfl, by decide +kernel, by decide +kernel, by decide +kernel⟩
  have run := run_of_exec done
  exact ⟨s, _, run, reached, lost,
    ((gate_running_max minuteExchanger numbersOnly 0 run).2.2.1 1).mp won⟩

end BrokerMcp.Proof.TokenExchange
