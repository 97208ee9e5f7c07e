import BrokerMcp.Proof.Sempv2.Url
import BrokerMcp.TokenExchange.Audience
import Mathlib.Data.List.Sort
import Mathlib.Data.String.Basic

namespace BrokerMcp.Proof.TokenExchange
open BrokerMcp.TokenExchange Transition
open BrokerMcp.Sempv2 (utf8)
open BrokerMcp.Proof.Sempv2 (utf8_injective)

theorem sortedAudience_eq_iff (m m' : Mismatch) :
    sortedAudience m = sortedAudience m' ↔ m.audience.Perm m'.audience := by
  have perm (m : Mismatch) : (sortedAudience m).Perm m.audience := List.mergeSort_perm _ _
  have sorted (m : Mismatch) : (sortedAudience m).Pairwise (· ≤ ·) :=
    List.pairwise_mergeSort' (· ≤ ·) _
  constructor
  · intro same
    exact (perm m).symm.trans (same ▸ perm m')
  · intro alike
    apply List.Perm.eq_of_pairwise' (sorted m) (sorted m')
    exact (perm m).trans (alike.trans (perm m').symm)

theorem encodedShape_eq_iff (m m' : Mismatch) :
    encodedShape m = encodedShape m' ↔ m.brokerAlias = m'.brokerAlias ∧
      m.requestedAudience = m'.requestedAudience ∧ m.audience.Perm m'.audience := by
  rw [← sortedAudience_eq_iff]
  unfold encodedShape
  rw [String.ofList_inj, List.append_cancel_left_eq]
  constructor
  · intro same
    obtain ⟨broker, same⟩ := JsonText.quote_inj same
    obtain ⟨requested, same⟩ := JsonText.quote_inj (List.append_cancel_left same)
    obtain ⟨sorted, -⟩ := JsonText.array_inj (List.append_cancel_left same)
    exact ⟨broker, requested, sorted⟩
  · rintro ⟨broker, requested, sorted⟩
    rw [broker, requested, sorted]

theorem key_eq_iff {sum256 : List UInt8 → List UInt8} {m m' : Mismatch}
    (noCollision : sum256 (utf8 (encodedShape m)) = sum256 (utf8 (encodedShape m')) →
      utf8 (encodedShape m) = utf8 (encodedShape m')) :
    audienceMismatchKey sum256 m = audienceMismatchKey sum256 m' ↔ m.brokerAlias = m'.brokerAlias ∧
      m.requestedAudience = m'.requestedAudience ∧ m.audience.Perm m'.audience := by
  rw [← encodedShape_eq_iff]
  constructor
  · intro same
    exact utf8_injective (noCollision same)
  · intro same
    rw [audienceMismatchKey, audienceMismatchKey, same]

section stepping

variable {format : JwtFormat} {sum256 : List UInt8 → List UInt8} {s t : AudienceState}
  {a : AudienceAction}

inductive Steps (sum256 : List UInt8 → List UInt8) (s : AudienceState) :
    AudienceAction → AudienceState → Prop where
  | silent {brokerAlias requestedAudience accessToken : String} :
      Steps sum256 s (.warn brokerAlias requestedAudience accessToken) s
  | warn {brokerAlias requestedAudience accessToken : String} {m : Mismatch}
      {shapes : CappedSet.State (List UInt8)}
      (entered : CappedSet.step audienceMismatchLoggedCap s.shapes
        (.enter (audienceMismatchKey sum256 m)) = some shapes) :
      Steps sum256 s (.warn brokerAlias requestedAudience accessToken) ⟨s.calls ++ [m], shapes, s.log⟩
  | access {a : AudienceAction} {b : CappedSet.Action (List UInt8)}
      {shapes : CappedSet.State (List UInt8)} (alone : b.entered = [])
      (checks : ∀ c, b = .check c → a = .check c)
      (moved : CappedSet.step audienceMismatchLoggedCap s.shapes b = some shapes) :
      Steps sum256 s a { s with shapes := shapes }
  | log {c : Nat} {m : Mismatch} {caller : CappedSet.Caller (List UInt8)}
      {outcome : CappedSet.Outcome} (call : s.calls[c]? = some m)
      (here : s.shapes.callers[c]? = some caller) (ended : caller.phase = .done outcome) :
      Steps sum256 s (.log c) { s with log := s.log ++ [(c, mismatchLine m outcome)] }

theorem access_steps {b : CappedSet.Action (List UInt8)} (alone : b.entered = [])
    (checks : ∀ c, b = .check c → a = .check c) (taken : s.access b = some t) :
    Steps sum256 s a t := by
  obtain ⟨shapes, moved, rfl⟩ := Option.map_eq_some_iff.mp taken
  exact .access alone checks moved

theorem step_steps (taken : s.step format sum256 a = some t) : Steps sum256 s a t := by
  cases a with
  | warn brokerAlias requestedAudience accessToken =>
      unfold AudienceState.step at taken
      cases found : mismatch format brokerAlias requestedAudience accessToken with
      | none =>
          simp only [found] at taken
          obtain rfl := Option.some.inj taken
          exact .silent
      | some m =>
          simp only [found] at taken
          obtain ⟨middle, moved, rfl⟩ := Option.map_eq_some_iff.mp taken
          obtain ⟨shapes, entered, rfl⟩ := Option.map_eq_some_iff.mp moved
          exact .warn entered
  | load c => exact access_steps rfl (by simp) taken
  | check c => exact access_steps rfl (by simp) taken
  | store c => exact access_steps rfl (by simp) taken
  | add c => exact access_steps rfl (by simp) taken
  | log c =>
      obtain ⟨m, call, taken⟩ := Option.bind_eq_some_iff.mp taken
      obtain ⟨caller, here, taken⟩ := Option.bind_eq_some_iff.mp taken
      unfold AudienceState.write at taken
      cases ended : caller.phase with
      | done outcome =>
          simp only [ended] at taken
          split_ifs at taken
          obtain rfl := Option.some.inj taken
          exact .log call here ended
      | _ => simp [ended] at taken

structure Reported (sum256 : List UInt8 → List UInt8) (s : AudienceState) : Prop where
  sound : CappedSet.Sound s.shapes
  keys : s.shapes.callers.map CappedSet.Caller.key = s.calls.map (audienceMismatchKey sum256)
  ended : ∀ c line, (c, line) ∈ s.log → ∃ m caller outcome, s.calls[c]? = some m ∧
    s.shapes.callers[c]? = some caller ∧ caller.phase = .done outcome ∧ line = mismatchLine m outcome

theorem reported_start : Reported sum256 .start :=
  ⟨CappedSet.sound_start, rfl, by simp [AudienceState.start]⟩

theorem reported_step (reported : Reported sum256 s) (taken : s.step format sum256 a = some t) :
    Reported sum256 t := by
  obtain ⟨sound, keys, ended⟩ := reported
  cases step_steps taken with
  | silent => exact ⟨sound, keys, ended⟩
  | @warn _ _ _ m shapes entered =>
      refine ⟨CappedSet.sound_step sound entered, ?_, ?_⟩
      · rw [CappedSet.keys_step entered, keys, List.map_append]
        rfl
      · intro c line written
        obtain ⟨m', caller, outcome, call, here, stopped, text⟩ := ended c line written
        refine ⟨m', caller, outcome, ?_, CappedSet.done_step here stopped entered, stopped, text⟩
        exact (List.getElem?_append_left (Cells.lt_of_some call)).trans call
  | access alone _ moved =>
      refine ⟨CappedSet.sound_step sound moved, ?_, ?_⟩
      · rw [CappedSet.keys_step moved, alone, List.append_nil, keys]
      · intro c line written
        obtain ⟨m', caller, outcome, call, here, stopped, text⟩ := ended c line written
        exact ⟨m', caller, outcome, call, CappedSet.done_step here stopped moved, stopped, text⟩
  | @log c m caller outcome call here stopped =>
      refine ⟨sound, keys, ?_⟩
      intro c' line written
      rcases List.mem_append.mp written with before | new
      · exact ended c' line before
      · obtain ⟨rfl, rfl⟩ := Prod.mk.inj (List.mem_singleton.mp new)
        exact ⟨m, caller, outcome, call, here, stopped, rfl⟩

theorem bounded_of_step {more : Nat}
    (bounded : CappedSet.Bounded audienceMismatchLoggedCap more s.shapes)
    (few : ∀ c, a = .check c → s.shapes.racing ≤ more) (taken : s.step format sum256 a = some t) :
    CappedSet.Bounded audienceMismatchLoggedCap more t.shapes := by
  cases step_steps taken with
  | silent => exact bounded
  | warn entered => exact CappedSet.bounded_step bounded (by simp) entered
  | access _ checks moved =>
      exact CappedSet.bounded_step bounded (fun c here => few c (checks c here)) moved
  | log => exact bounded

theorem late_of_step {n : Nat} {key : List UInt8} (late : CappedSet.Late n key s.shapes)
    (taken : s.step format sum256 a = some t) : CappedSet.Late n key t.shapes := by
  cases step_steps taken with
  | silent => exact late
  | warn entered => exact CappedSet.late_step late entered
  | access _ _ moved => exact CappedSet.late_step late moved
  | log => exact late

end stepping

def IsFor (sum256 : List UInt8 → List UInt8) (s : AudienceState) (c : Nat) (key : List UInt8) : Prop :=
  ∃ m, s.calls[c]? = some m ∧ audienceMismatchKey sum256 m = key

def Reports (s : AudienceState) (c : Nat) (level : Level) : Prop :=
  ∃ line, (c, line) ∈ s.log ∧ line.level = level

def FoundRoom (s : AudienceState) (c : Nat) : Prop :=
  ∃ caller, s.shapes.callers[c]? = some caller ∧
    caller.phase ∈ [.admitted, .stored, .done .beaten, .done .first]

section reports

variable {sum256 : List UInt8 → List UInt8} {s : AudienceState} {c : Nat} {key : List UInt8}
  {level : Level}

theorem Reported.length_eq (reported : Reported sum256 s) :
    s.shapes.callers.length = s.calls.length := by
  simpa using congrArg List.length reported.keys

theorem Reported.key_at (reported : Reported sum256 s) (c : Nat) :
    (s.shapes.callers[c]?).map CappedSet.Caller.key =
      (s.calls[c]?).map (audienceMismatchKey sum256) := by
  rw [← List.getElem?_map, reported.keys, List.getElem?_map]

theorem Reported.isFor_iff (reported : Reported sum256 s) :
    IsFor sum256 s c key ↔ ∃ caller, s.shapes.callers[c]? = some caller ∧ caller.key = key := by
  have same := reported.key_at c
  constructor
  · rintro ⟨m, call, rfl⟩
    rw [call, Option.map_some, Option.map_eq_some_iff] at same
    exact same
  · rintro ⟨caller, here, rfl⟩
    rw [here, Option.map_some, eq_comm, Option.map_eq_some_iff] at same
    exact same

theorem Reported.outcome (reported : Reported sum256 s) (reports : Reports s c level) :
    ∃ caller outcome, s.shapes.callers[c]? = some caller ∧ caller.phase = .done outcome ∧
      levelOf outcome = level := by
  obtain ⟨line, written, rfl⟩ := reports
  obtain ⟨m, caller, outcome, -, here, ended, rfl⟩ := reported.ended c line written
  exact ⟨caller, outcome, here, ended, rfl⟩

theorem reports_of_isOver (finished : s.isOver = true) (inside : c < s.calls.length) :
    ∃ level, Reports s c level := by
  have logged := List.all_eq_true.mp finished c (List.mem_range.mpr inside)
  obtain ⟨⟨_, line⟩, written, rfl⟩ := List.mem_map.mp (of_decide_eq_true logged)
  exact ⟨line.level, line, written, rfl⟩

theorem Reported.owns (reported : Reported sum256 s) (mine : IsFor sum256 s c key)
    (room : FoundRoom s c) (reports : Reports s c .info) :
    ∃ caller, s.shapes.callers[c]? = some caller ∧ caller.key = key ∧ caller.phase.owns = true := by
  obtain ⟨caller, outcome, here, ended, atInfo⟩ := reported.outcome reports
  obtain ⟨_, there, phase⟩ := room
  obtain rfl := Option.some.inj (here.symm.trans there)
  obtain ⟨_, there, same⟩ := reported.isFor_iff.mp mine
  obtain rfl := Option.some.inj (here.symm.trans there)
  refine ⟨caller, here, same, ?_⟩
  rw [ended] at phase ⊢
  cases outcome with
  | first => rfl
  | full => simp at phase
  | known => cases atInfo
  | beaten => cases atInfo

theorem Reported.unique_info (reported : Reported sum256 s) {c' : Nat} (mine : IsFor sum256 s c key)
    (yours : IsFor sum256 s c' key) (room : FoundRoom s c) (room' : FoundRoom s c')
    (reports : Reports s c .info) (reports' : Reports s c' .info) : c = c' := by
  obtain ⟨caller, here, rfl, owns⟩ := reported.owns mine room reports
  obtain ⟨caller', there, same, owns'⟩ := reported.owns yours room' reports'
  exact reported.sound.owner_unique here there same.symm owns owns'

theorem Reported.exists_info (reported : Reported sum256 s) (finished : s.isOver = true)
    (known : key ∈ s.shapes.remembered) :
    ∃ c, IsFor sum256 s c key ∧ FoundRoom s c ∧ Reports s c .info := by
  obtain ⟨c, caller, here, same, owns⟩ := reported.sound.exists_owner known
  have inside : c < s.calls.length := reported.length_eq ▸ Cells.lt_of_some here
  obtain ⟨level, reports⟩ := reports_of_isOver finished inside
  obtain ⟨caller', outcome, there, ended, atLevel⟩ := reported.outcome reports
  obtain rfl := Option.some.inj (here.symm.trans there)
  have first : outcome = .first := by
    rw [ended] at owns
    cases outcome <;> first | rfl | cases owns
  subst first
  obtain rfl : level = .info := atLevel.symm
  exact ⟨c, reported.isFor_iff.mpr ⟨caller, here, same⟩, ⟨caller, here, by simp [ended]⟩, reports⟩

theorem Reported.late_debug (reported : Reported sum256 s) {n : Nat}
    (late : CappedSet.Late n key s.shapes) (later : n ≤ c) (mine : IsFor sum256 s c key)
    (reports : Reports s c level) : level = .debug := by
  obtain ⟨caller, outcome, here, ended, rfl⟩ := reported.outcome reports
  obtain ⟨caller', there, same⟩ := reported.isFor_iff.mp mine
  obtain rfl := Option.some.inj (here.symm.trans there)
  rcases late.finds c caller here later same with entered | known
  · cases ended.symm.trans entered
  · cases ended.symm.trans known
    rfl

end reports

/-- The remembered shapes are as many as the cap allows, and as many more as calls race with one that
checks the counter. Of the calls that found room, exactly one reports a remembered shape at INFO, and
the calls for it that come later report it at DEBUG. -/
theorem mismatch_throttled {format : JwtFormat} {sum256 : List UInt8 → List UInt8}
    {prior history : List (AudienceState × AudienceAction)} {s t : AudienceState}
    (reached : Run (AudienceState.step format sum256) .start prior s)
    (run : Run (AudienceState.step format sum256) s history t) :
    t.shapes.remembered.Nodup ∧
    (∀ more, (∀ p ∈ prior ++ history, ∀ c, p.2 = .check c → p.1.shapes.racing ≤ more) →
      t.shapes.remembered.length ≤ audienceMismatchLoggedCap + more) ∧
    (∀ c key, IsFor sum256 t c key → FoundRoom t c → Reports t c .info → key ∈ t.shapes.remembered ∧
      ∀ c', IsFor sum256 t c' key → FoundRoom t c' → Reports t c' .info → c' = c) ∧
    (t.isOver = true → ∀ key ∈ t.shapes.remembered,
      ∃! c, IsFor sum256 t c key ∧ FoundRoom t c ∧ Reports t c .info) ∧
    (∀ key ∈ s.shapes.remembered, ∀ c, s.calls.length ≤ c → IsFor sum256 t c key →
      (∀ level, Reports t c level → level = .debug) ∧ (t.isOver = true → Reports t c .debug)) ∧
    (∀ m m' : Mismatch, (sum256 (utf8 (encodedShape m)) = sum256 (utf8 (encodedShape m')) →
        utf8 (encodedShape m) = utf8 (encodedShape m')) →
      (audienceMismatchKey sum256 m = audienceMismatchKey sum256 m' ↔
        m.brokerAlias = m'.brokerAlias ∧ m.requestedAudience = m'.requestedAudience ∧
        m.audience.Perm m'.audience)) := by
  have before : Reported sum256 s := (reached.invariant reported_start fun _ _ _ => reported_step).1
  have reported : Reported sum256 t := (run.invariant before fun _ _ _ => reported_step).1
  refine ⟨reported.sound.nodup, ?_, ?_, ?_, ?_, fun m m' => key_eq_iff⟩
  · intro more few
    apply reported.sound.length_le
    have start : CappedSet.Bounded audienceMismatchLoggedCap more AudienceState.start.shapes :=
      Nat.zero_le _
    apply (reached.append run).invariant_of few start
    exact fun _ _ _ bounded meets => bounded_of_step bounded meets
  · intro c key mine room reports
    obtain ⟨caller, here, rfl, owns⟩ := reported.owns mine room reports
    refine ⟨reported.sound.mem_of_owner here owns, ?_⟩
    intro c' yours room' reports'
    exact reported.unique_info yours mine room' room reports' reports
  · intro finished key known
    obtain ⟨c, mine, room, reports⟩ := reported.exists_info finished known
    refine ⟨c, ⟨mine, room, reports⟩, ?_⟩
    rintro c' ⟨yours, room', reports'⟩
    exact reported.unique_info yours mine room' room reports' reports
  · intro key known c later mine
    have late : CappedSet.Late s.shapes.callers.length key t.shapes :=
      (run.invariant (CappedSet.late_start known) fun _ _ _ => late_of_step).1
    rw [before.length_eq] at late
    have debug (level : Level) (reports : Reports t c level) : level = .debug :=
      reported.late_debug late later mine reports
    refine ⟨debug, ?_⟩
    intro finished
    obtain ⟨m, call, -⟩ := mine
    obtain ⟨level, reports⟩ := reports_of_isOver finished (Cells.lt_of_some call)
    exact debug level reports ▸ reports

def noClaims : JwtFormat where
  decodeString segment := if segment = "e30" then some [0x7b, 0x7d] else none
  unmarshal payload := if payload = [0x7b, 0x7d] then some ⟨[]⟩ else none

theorem mismatch_noClaims (brokerAlias : String) :
    mismatch noClaims brokerAlias "api" "h.e30.s" = some ⟨brokerAlias, "api", []⟩ := by
  have parts : ['h', '.', 'e', '3', '0', '.', 's'].splitOn '.' = [['h'], ['e', '3', '0'], ['s']] := by
    decide
  simp [mismatch, decodeJWTClaimsUnverified, parts, noClaims]

def prod : Mismatch := ⟨"prod", "api", []⟩

def sumOfProd (text : List UInt8) : List UInt8 :=
  if text = utf8 (encodedShape prod) then
    [0xea, 0x6e, 0xc8, 0xac, 0x64, 0x55, 0x04, 0x00, 0x9d, 0xa6, 0x23, 0x35, 0x4d, 0x2e,
      0x25, 0x5b, 0x41, 0x6a, 0x71, 0xf5, 0x0f, 0xff, 0x39, 0x3b, 0x95, 0x66, 0x65, 0xfb,
      0x92, 0xcf, 0xa2, 0xd6]
  else []

def afterFirst : AudienceState where
  calls := [prod]
  shapes := ⟨[audienceMismatchKey sumOfProd prod], 1,
    [⟨audienceMismatchKey sumOfProd prod, .done .first⟩]⟩
  log := [(0, mismatchLine prod .first)]

def afterSecond : AudienceState where
  calls := [prod, prod]
  shapes := ⟨[audienceMismatchKey sumOfProd prod], 1,
    [⟨audienceMismatchKey sumOfProd prod, .done .first⟩,
      ⟨audienceMismatchKey sumOfProd prod, .done .known⟩]⟩
  log := [(0, mismatchLine prod .first), (1, mismatchLine prod .known)]

theorem mismatch_throttled_twice : ∃ prior history,
    Run (AudienceState.step noClaims sumOfProd) .start prior afterFirst ∧
    Run (AudienceState.step noClaims sumOfProd) afterFirst history afterSecond ∧
    (∃! c, IsFor sumOfProd afterSecond c (audienceMismatchKey sumOfProd prod) ∧
      FoundRoom afterSecond c ∧ Reports afterSecond c .info) ∧
    Reports afterSecond 1 .debug := by
  have first : exec (AudienceState.step noClaims sumOfProd) .start
      [.warn "prod" "api" "h.e30.s", .load 0, .check 0, .store 0, .add 0, .log 0] =
        some afterFirst := by
    simp [exec, AudienceState.step, mismatch_noClaims, AudienceState.access, CappedSet.step,
      CappedSet.State.standing, CappedSet.State.move, Option.filter_some, AudienceState.start,
      CappedSet.State.start, AudienceState.write, audienceMismatchLoggedCap, afterFirst, prod]
  have second : exec (AudienceState.step noClaims sumOfProd) afterFirst
      [.warn "prod" "api" "h.e30.s", .load 1, .log 1] = some afterSecond := by
    simp [exec, AudienceState.step, mismatch_noClaims, AudienceState.access, CappedSet.step,
      CappedSet.State.standing, CappedSet.State.move, Option.filter_some, AudienceState.write,
      afterFirst, afterSecond, prod]
  have throttled := mismatch_throttled (run_of_exec first) (run_of_exec second)
  refine ⟨_, _, run_of_exec first, run_of_exec second, ?_, ?_⟩
  · exact throttled.2.2.2.1 rfl _ (List.mem_singleton_self _)
  · exact (throttled.2.2.2.2.1 _ (List.mem_singleton_self _) 1 (Nat.le_refl 1) ⟨prod, rfl, rfl⟩).2 rfl

section overshoot

variable {format : JwtFormat} {sum256 : List UInt8 → List UInt8} {s : AudienceState} {m : Mismatch}
  {brokerAlias requestedAudience accessToken : String}

theorem exec_stores (found : mismatch format brokerAlias requestedAudience accessToken = some m)
    (absent : audienceMismatchKey sum256 m ∉ s.shapes.remembered)
    (room : s.shapes.count < audienceMismatchLoggedCap) :
    exec (AudienceState.step format sum256) s
        [.warn brokerAlias requestedAudience accessToken, .load s.shapes.callers.length,
          .check s.shapes.callers.length, .store s.shapes.callers.length] =
      some ⟨s.calls ++ [m], ⟨s.shapes.remembered ++ [audienceMismatchKey sum256 m], s.shapes.count,
        s.shapes.callers ++ [⟨audienceMismatchKey sum256 m, .stored⟩]⟩, s.log⟩ := by
  simp [exec, AudienceState.step, found, AudienceState.access, CappedSet.step,
    CappedSet.State.standing, CappedSet.State.move, Option.filter_some, absent, room]

def aliasOf (n : Nat) : String := String.ofList (List.replicate n 'b')

theorem exists_uncounted (sum256 : List UInt8 → List UInt8) (injective : Function.Injective sum256)
    (n : Nat) : ∃ history s, Run (AudienceState.step noClaims sum256) .start history s ∧
      s.shapes.remembered = (List.range n).map (fun i => audienceMismatchKey sum256 ⟨aliasOf i, "api", []⟩) ∧
      s.shapes.count = 0 := by
  induction n with
  | zero => exact ⟨[], .start, .nil, rfl, rfl⟩
  | succ n ih =>
      obtain ⟨history, s, run, shapes, uncounted⟩ := ih
      have absent : audienceMismatchKey sum256 ⟨aliasOf n, "api", []⟩ ∉ s.shapes.remembered := by
        rw [shapes]
        intro known
        obtain ⟨i, below, same⟩ := List.mem_map.mp known
        have aliases := ((key_eq_iff fun h => injective h).mp same).1
        have lengths := congrArg String.length aliases
        simp only [aliasOf, String.length_ofList, List.length_replicate] at lengths
        exact absurd (List.mem_range.mp below) (by omega)
      have room : s.shapes.count < audienceMismatchLoggedCap := by
        rw [uncounted]
        decide
      have stored := run_of_exec (exec_stores (mismatch_noClaims (aliasOf n)) absent room)
      refine ⟨_, _, run.append stored, ?_, uncounted⟩
      rw [List.range_succ, List.map_append, ← shapes]
      rfl

end overshoot

/-- With a shape more than the cap allows, all stored before the first is counted. -/
theorem cap_overshot : ¬ ∀ (sum256 : List UInt8 → List UInt8), Function.Injective sum256 →
    ∀ (format : JwtFormat) (history : List (AudienceState × AudienceAction)) (s : AudienceState),
      Run (AudienceState.step format sum256) .start history s →
      s.shapes.remembered.length ≤ audienceMismatchLoggedCap := by
  intro claimed
  obtain ⟨history, s, run, shapes, -⟩ :=
    exists_uncounted id Function.injective_id (audienceMismatchLoggedCap + 1)
  have bound := claimed id Function.injective_id noClaims history s run
  rw [shapes, List.length_map, List.length_range] at bound
  omega

end BrokerMcp.Proof.TokenExchange
