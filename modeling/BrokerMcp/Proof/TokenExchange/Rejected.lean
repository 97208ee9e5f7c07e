import BrokerMcp.Proof.TokenExchange.Identity

namespace BrokerMcp.Proof.TokenExchange
open BrokerMcp.TokenExchange
open Transition
open Text (Bytes)

/-- The `Invalidate` overtakes a flight of its key: a call of the key has received the token that the
flight put into the cache, and singleflight has not forgotten the flight. -/
def Overtakes (sha256 : Bytes → Bytes) (s : State) (input : ExchangeInput) : Prop :=
  ∃ f flight token, s.group.lookup (computeDeduplicationKey sha256 input) = some f ∧
    s.flights[f]? = some flight ∧ flight.phase = .stored token ∧
    ∃ call ∈ s.calls, ∃ received, call.phase = .returned (.ok received) ∧
      received.value = token.value ∧
      computeDeduplicationKey sha256 call.input = computeDeduplicationKey sha256 input

def values (s : State) : List String := s.issued.map fun record => record.token.value

section once

variable {sha256 : Bytes → Bytes} {client : Client} {maxTTL : Int} {s t : State} {a : Action}

theorem record_unique (once : (values s).Nodup) {r q : Issuance} (memberR : r ∈ s.issued)
    (memberQ : q ∈ s.issued) (same : r.token.value = q.token.value) : r = q :=
  List.inj_on_of_nodup_map once memberR memberQ same

theorem Moves.issued_extends (moves : Moves sha256 client maxTTL s a t) : s.issued <+: t.issued := by
  cases moves with
  | issues => exact List.prefix_append _ _
  | exchange | call | starts | fails | stores | lands | drops => exact List.prefix_rfl

theorem run_issued_extends {history : List (State × Action)}
    (run : Run (step sha256 client maxTTL) s history t) : s.issued <+: t.issued := by
  induction run with
  | nil => exact List.prefix_rfl
  | cons taken _ ih => exact (step_moves taken).issued_extends.trans ih

theorem once_of_extends (grows : s.issued <+: t.issued) (once : (values t).Nodup) :
    (values s).Nodup :=
  once.sublist (grows.sublist.map _)

theorem tokens_set {f g : Nat} {other flight : Flight} {phase : FlightPhase} {token : Token}
    (there : s.flights[g]? = some other)
    (keeps : FlightPhase.token? phase = some token → FlightPhase.token? other.phase = some token ∧
      (FlightPhase.isLanded other.phase = true → FlightPhase.isLanded phase = true))
    (flown : (s.flights.set g { other with phase })[f]? = some flight)
    (holds : FlightPhase.token? flight.phase = some token) :
    ∃ earlier, s.flights[f]? = some earlier ∧ FlightPhase.token? earlier.phase = some token ∧
      (FlightPhase.isLanded earlier.phase = true → FlightPhase.isLanded flight.phase = true) := by
  rw [Cells.getElem?_set_of_some there] at flown
  split_ifs at flown with same
  · obtain rfl := Option.some.inj flown
    exact ⟨other, same ▸ there, keeps holds⟩
  · exact ⟨flight, flown, holds, id⟩

theorem Moves.tokens (moves : Moves sha256 client maxTTL s a t) {f : Nat} {flight : Flight}
    {token : Token} (flown : t.flights[f]? = some flight)
    (holds : FlightPhase.token? flight.phase = some token) :
    (∃ earlier, s.flights[f]? = some earlier ∧ FlightPhase.token? earlier.phase = some token ∧
      (FlightPhase.isLanded earlier.phase = true → FlightPhase.isLanded flight.phase = true)) ∨
    ∃ request, t.issued = s.issued ++ [⟨f, request, token⟩] := by
  cases moves with
  | exchange | call | drops => exact .inl ⟨flight, flown, holds, id⟩
  | starts here input absent waiting =>
      rw [Cells.getElem?_snoc] at flown
      split_ifs at flown
      · obtain rfl := Option.some.inj flown
        cases holds
      · exact .inl ⟨flight, flown, holds, id⟩
  | fails there aloft => exact .inl (tokens_set there (fun held => by cases held) flown holds)
  | @issues _ g other request issue there running built =>
      rw [State.setPhase, Cells.getElem?_set_of_some there] at flown
      split_ifs at flown with same
      · obtain rfl := Option.some.inj flown
        obtain rfl := Option.some.inj holds
        exact .inr ⟨request, by rw [same]⟩
      · exact .inl ⟨flight, flown, holds, id⟩
  | stores there issued =>
      refine .inl (tokens_set there (fun held => ?_) flown holds)
      rw [issued]
      exact ⟨held, id⟩
  | lands there returns =>
      refine .inl (tokens_set there (fun held => ?_) flown holds)
      exact ⟨(result_inv returns).2 ▸ held, fun _ => rfl⟩

end once

structure Spent (value : String) (n : Nat) (s : State) : Prop where
  issued : ∃ record ∈ s.issued, record.token.value = value
  landed : ∀ (f : Nat) (flight : Flight), s.flights[f]? = some flight → ∀ token,
    FlightPhase.token? flight.phase = some token → token.value = value →
    FlightPhase.isLanded flight.phase = true
  uncached : ∀ key token, s.cache.lookup key = some token → token.value ≠ value
  untaken : ∀ (c : Nat) (call : Call), s.calls[c]? = some call → n ≤ c → ∀ token,
    CallPhase.token? call.phase = some token → token.value ≠ value
  unjoined : ∀ (c : Nat) (call : Call), s.calls[c]? = some call → n ≤ c → ∀ f flight token,
    call.phase = .waiting f → s.flights[f]? = some flight →
    FlightPhase.token? flight.phase = some token → token.value ≠ value

section spent

variable {sha256 : Bytes → Bytes} {client : Client} {maxTTL : Int} {s t : State} {a : Action}
  {value : String} {n : Nat}

theorem Spent.issue_ne (spent : Spent value n s) (once : (values t).Nodup) {record : Issuance}
    (issues : t.issued = s.issued ++ [record]) : record.token.value ≠ value := by
  obtain ⟨old, member, same⟩ := spent.issued
  rw [values, issues, List.map_append, List.nodup_append] at once
  intro again
  exact once.2.2 _ (List.mem_map_of_mem member) _ (by simp) (same.trans again.symm)

theorem Spent.landed_step (spent : Spent value n s) (once : (values t).Nodup)
    (moves : Moves sha256 client maxTTL s a t) {f : Nat} {flight : Flight} {token : Token}
    (flown : t.flights[f]? = some flight) (holds : FlightPhase.token? flight.phase = some token)
    (same : token.value = value) : FlightPhase.isLanded flight.phase = true := by
  rcases moves.tokens flown holds with ⟨earlier, there, held, stays⟩ | ⟨request, issues⟩
  · exact stays (spent.landed f earlier there token held same)
  · exact absurd same (spent.issue_ne once issues)

theorem Spent.unjoined_step (spent : Spent value n s) (once : (values t).Nodup)
    (moves : Moves sha256 client maxTTL s a t) {c f : Nat} {call : Call} {flight : Flight}
    {token : Token} (here : s.calls[c]? = some call) (late : n ≤ c) (waiting : call.phase = .waiting f)
    (flown : t.flights[f]? = some flight) (holds : FlightPhase.token? flight.phase = some token) :
    token.value ≠ value := by
  rcases moves.tokens flown holds with ⟨earlier, there, held, -⟩ | ⟨request, issues⟩
  · exact spent.unjoined c call here late f earlier token waiting there held
  · exact spent.issue_ne once issues

theorem Advances.unspent (spent : Spent value n s) {c : Nat} {call : Call}
    (here : s.calls[c]? = some call) (late : n ≤ c) {phase : CallPhase}
    (advances : Advances sha256 s call phase) {token : Token}
    (holds : CallPhase.token? phase = some token) : token.value ≠ value := by
  cases advances with
  | stays => exact spent.untaken c call here late token holds
  | quiet empty _ => rw [empty] at holds; cases holds
  | finds found =>
      obtain rfl := Option.some.inj holds
      exact spent.uncached _ _ found
  | serves found =>
      obtain rfl := Option.some.inj holds
      exact spent.untaken c call here late _ (by rw [found]; rfl)
  | joins _ => cases holds
  | receives waiting flown landed =>
      obtain rfl := Option.some.inj holds
      exact spent.unjoined c call here late _ _ _ waiting flown (by rw [landed]; rfl)

theorem Spent.registered_ne (linked : Linked sha256 client s) (spent : Spent value n s)
    {key : String} {f : Nat} {flight : Flight} {token : Token} (flying : s.group.lookup key = some f)
    (flown : s.flights[f]? = some flight) (holds : FlightPhase.token? flight.phase = some token) :
    token.value ≠ value := by
  intro same
  obtain ⟨other, there, -, aloft⟩ := linked.registered key f flying
  obtain rfl := Option.some.inj (flown.symm.trans there)
  have landed := spent.landed f flight flown token holds same
  rw [aloft] at landed
  cases landed

theorem Advances.unspent_flight (linked : Linked sha256 client s) (spent : Spent value n s) {c f : Nat}
    {call : Call} (here : s.calls[c]? = some call) (late : n ≤ c) {phase : CallPhase}
    (advances : Advances sha256 s call phase) {flight : Flight} {token : Token}
    (waiting : phase = .waiting f) (flown : s.flights[f]? = some flight)
    (holds : FlightPhase.token? flight.phase = some token) : token.value ≠ value := by
  cases advances with
  | stays => exact spent.unjoined c call here late f flight token waiting flown holds
  | quiet _ apart => exact absurd waiting (apart f)
  | joins flying =>
      obtain ⟨rfl⟩ := waiting
      exact spent.registered_ne linked flying flown holds
  | finds | serves | receives => cases waiting

theorem Moves.spent (linked : Linked sha256 client s) (spent : Spent value n s)
    (once : (values t).Nodup) (moves : Moves sha256 client maxTTL s a t) : Spent value n t := by
  have issued : ∃ record ∈ t.issued, record.token.value = value := by
    obtain ⟨record, member, same⟩ := spent.issued
    exact ⟨record, moves.extends.issued record member, same⟩
  have landed : ∀ (f : Nat) (flight : Flight), t.flights[f]? = some flight → ∀ token,
      FlightPhase.token? flight.phase = some token → token.value = value →
      FlightPhase.isLanded flight.phase = true :=
    fun f flight flown token holds same => spent.landed_step once moves flown holds same
  have stays : ∀ (c : Nat) (call : Call), s.calls[c]? = some call → n ≤ c →
      ∀ (f : Nat) (flight : Flight) (token : Token), call.phase = .waiting f →
        t.flights[f]? = some flight → FlightPhase.token? flight.phase = some token →
        token.value ≠ value :=
    fun c call here late f flight token waiting flown holds =>
      spent.unjoined_step once moves here late waiting flown holds
  cases moves with
  | exchange input =>
      refine ⟨issued, landed, spent.uncached, ?_, ?_⟩
      · refine Cells.forall_snoc spent.untaken ?_
        intro _ token holds
        cases holds
      · refine Cells.forall_snoc stays ?_
        intro _ f flight token waiting
        cases waiting
  | call here input advances =>
      refine ⟨issued, landed, spent.uncached, ?_, ?_⟩
      · exact Cells.forall_set here spent.untaken
          fun late token holds => advances.unspent spent here late holds
      · exact Cells.forall_set here stays
          fun late f flight token waiting flown holds =>
            advances.unspent_flight linked spent here late waiting flown holds
  | starts here input absent waiting =>
      refine ⟨issued, landed, spent.uncached, ?_, ?_⟩
      · refine Cells.forall_set here spent.untaken ?_
        intro _ token holds
        rw [waiting] at holds
        cases holds
      · refine Cells.forall_set here stays ?_
        intro _ f flight token joins flown holds
        rw [waiting] at joins
        obtain ⟨rfl⟩ := joins
        rw [Cells.getElem?_snoc, if_pos rfl] at flown
        obtain rfl := Option.some.inj flown
        cases holds
  | fails there aloft =>
      exact ⟨issued, landed, spent.uncached, spent.untaken, stays⟩
  | issues there running built =>
      exact ⟨issued, landed, spent.uncached, spent.untaken, stays⟩
  | @stores _ g other stored now there issued' =>
      refine ⟨issued, landed, ?_, spent.untaken, stays⟩
      intro key token found same
      rcases lookup_putToken found with old | ⟨rfl, rfl⟩
      · exact spent.uncached key token old same
      · have landed := spent.landed g other there token (by rw [issued']; rfl) same
        rw [issued'] at landed
        cases landed
  | lands there returns =>
      exact ⟨issued, landed, spent.uncached, spent.untaken, stays⟩
  | drops key a exact' =>
      refine ⟨issued, landed, ?_, spent.untaken, stays⟩
      intro k token found
      rw [Assoc.lookup_drop] at found
      split_ifs at found
      exact spent.uncached k token found

theorem run_spent {history : List (State × Action)}
    (run : Run (step sha256 client maxTTL) s history t) (linked : Linked sha256 client s)
    (spent : Spent value n s) (once : (values t).Nodup) : Spent value n t := by
  induction run with
  | nil => exact spent
  | @cons s m t a history taken rest ih =>
      have moves := step_moves taken
      have earlier := once_of_extends (run_issued_extends rest) once
      exact ih (moves.linked linked) (moves.spent linked spent earlier) once

end spent

section rejected

variable {sha256 : Bytes → Bytes} {client : Client} {maxTTL : Int} {s t : State}
  {input : ExchangeInput}

theorem spent_of_invalidate (linked : Linked sha256 client s) (once : (values s).Nodup)
    (apart : ¬ Overtakes sha256 s input) {call : Call} {received : Token} (member : call ∈ s.calls)
    (returned : call.phase = .returned (.ok received))
    (key : computeDeduplicationKey sha256 call.input = computeDeduplicationKey sha256 input) :
    Spent received.value s.calls.length
      { s with cache := Assoc.drop (computeDeduplicationKey sha256 input) s.cache } := by
  obtain ⟨c, here⟩ := List.mem_iff_getElem?.mp member
  obtain ⟨record, issued, same, flight, flown, keyed, past⟩ :=
    linked.taken c call here received (by rw [returned]; rfl)
  subst same
  refine ⟨⟨record, issued, rfl⟩, ?_, ?_, ?_, ?_⟩
  · intro f other there token holds same
    obtain ⟨record', issued', source, same'⟩ := linked.funded f other there token holds
    subst same'
    obtain rfl := record_unique once issued' issued same
    subst source
    obtain rfl := Option.some.inj (flown.symm.trans there)
    cases shape : flight.phase with
    | landed result => rfl
    | stored token =>
        have flying := linked.aloft _ flight flown (by rw [shape]; rfl)
        rw [keyed, key] at flying
        rw [shape] at holds
        obtain rfl := Option.some.inj holds
        exact absurd ⟨_, flight, _, flying, flown, shape, call, member, _, returned, rfl, key⟩ apart
    | running | issued _ => rw [shape] at past; cases past
    | failed err => rw [shape] at holds; cases holds
  · intro k token found same
    rw [Assoc.lookup_drop] at found
    split_ifs at found with other
    obtain ⟨record', issued', same', flight', flown', keyed', -⟩ := linked.cached k token found
    subst same'
    obtain rfl := record_unique once issued' issued same
    obtain rfl := Option.some.inj (flown.symm.trans flown')
    exact other (keyed'.symm.trans (keyed.trans key))
  · intro c call there late
    exact absurd (Cells.lt_of_some there) (Nat.not_lt.mpr late)
  · intro c call there late
    exact absurd (Cells.lt_of_some there) (Nat.not_lt.mpr late)

def withCall (s : State) (input : ExchangeInput) (phase : CallPhase) : State :=
  { s with calls := s.calls ++ [⟨input, none, phase⟩] }

theorem getElem?_withCall (s : State) (input : ExchangeInput) (phase : CallPhase) :
    (withCall s input phase).calls[s.calls.length]? = some ⟨input, none, phase⟩ := by
  rw [withCall, Cells.getElem?_snoc, if_pos rfl]

theorem set_withCall (s : State) (input : ExchangeInput) (phase next : CallPhase) :
    (withCall s input phase).calls.set s.calls.length ⟨input, none, next⟩ =
      (withCall s input next).calls := by
  rw [withCall, List.set_append_right _ _ (Nat.le_refl _), Nat.sub_self]
  rfl

theorem moveCall_withCall {phase next : CallPhase} {move : Call → Option Call}
    (moved : move ⟨input, none, phase⟩ = some ⟨input, none, next⟩) :
    (withCall s input phase).moveCall s.calls.length move = some (withCall s input next) := by
  rw [State.moveCall, getElem?_withCall, Option.bind_eq_bind, Option.bind_some, moved,
    Option.bind_some, set_withCall]
  rfl

theorem doChan_withCall {f : Nat}
    (flying : s.group.lookup (computeDeduplicationKey sha256 input) = some f) :
    (withCall s input .missed).doChan sha256 s.calls.length =
      some (withCall s input (.waiting f)) := by
  have flying : (withCall s input .missed).group.lookup (computeDeduplicationKey sha256 input) =
    some f := flying
  rw [State.doChan, getElem?_withCall, Option.bind_eq_bind, Option.bind_some]
  have joined : Call.join ⟨input, none, .missed⟩ f = some ⟨input, none, .waiting f⟩ := rfl
  simp only [flying]
  rw [joined, Option.bind_some, set_withCall]
  rfl

theorem finish_stored (input : ExchangeInput) (phase : CallPhase) {f : Nat} {flight : Flight}
    {token : Token} (flown : s.flights[f]? = some flight) (stored : flight.phase = .stored token) :
    ∃ t, (withCall s input phase).finish f = some (withCall t input phase) ∧
      t.calls = s.calls ∧ t.issued = s.issued ∧
      t.flights[f]? = some { flight with phase := .landed (.ok token) } := by
  have flown' : (withCall s input phase).flights[f]? = some flight := flown
  have returns : flight.phase.result? = some (.ok token) := by
    rw [stored]
    rfl
  rw [State.finish, flown', Option.bind_eq_bind, Option.bind_some, returns, Option.bind_eq_bind,
    Option.bind_some]
  refine ⟨{ s.setPhase f flight (.landed (.ok token)) with
    group := if s.group.lookup flight.key = some f then Assoc.drop flight.key s.group
      else s.group }, rfl, rfl, rfl, ?_⟩
  rw [State.setPhase, Cells.getElem?_set_of_some flown, if_pos rfl]

theorem joins_stored (client : Client) (maxTTL : Int) {f : Nat} {flight : Flight} {token : Token}
    (missing : s.cache.lookup (computeDeduplicationKey sha256 input) = none)
    (flying : s.group.lookup (computeDeduplicationKey sha256 input) = some f)
    (flown : s.flights[f]? = some flight) (stored : flight.phase = .stored token) :
    ∃ history t, Run (step sha256 client maxTTL) s history t ∧ values t = values s ∧
      ∃ later, t.calls[s.calls.length]? = some later ∧ later.phase = .returned (.ok token) := by
  obtain ⟨u, finished, calls, issued, outcome⟩ := finish_stored input (.waiting f) flown stored
  have guarded : step sha256 client maxTTL (withCall s input .called) (.guard s.calls.length) =
    some (withCall s input .guarded) := moveCall_withCall rfl
  have missed : step sha256 client maxTTL (withCall s input .guarded) (.get s.calls.length 0) =
      some (withCall s input .missed) := by
    apply moveCall_withCall
    have missing : (withCall s input .guarded).cache.lookup
      (computeDeduplicationKey sha256 input) = none := missing
    rw [fresh?, missing]
    rfl
  have joined : step sha256 client maxTTL (withCall s input .missed) (.doChan s.calls.length) =
    some (withCall s input (.waiting f)) := doChan_withCall flying
  have landed : step sha256 client maxTTL (withCall s input (.waiting f)) (.finish f) =
    some (withCall u input (.waiting f)) := finished
  have outcome : (withCall u input (.waiting f)).flights[f]? =
    some { flight with phase := .landed (.ok token) } := outcome
  have received : (withCall u input (.waiting f)).receive ⟨input, none, .waiting f⟩ =
      some ⟨input, none, .returned (.ok token)⟩ := by
    rw [State.receive, Call.flight?, Option.bind_eq_bind, Option.bind_some, outcome]
    rfl
  have delivered : step sha256 client maxTTL (withCall u input (.waiting f))
      (.receive s.calls.length) = some (withCall u input (.returned (.ok token))) :=
    calls ▸ moveCall_withCall received
  obtain ⟨history, run⟩ : ∃ history, Run (step sha256 client maxTTL) s history
      (withCall u input (.returned (.ok token))) :=
    ⟨_, .cons (a := .exchange input) (t := withCall s input .called) rfl <| .cons guarded <|
      .cons missed <| .cons joined <| .cons landed <| .cons delivered .nil⟩
  exact ⟨history, _, run, congrArg (List.map _) issued, _, calls ▸ getElem?_withCall u input _, rfl⟩

/-- After an `Invalidate` that overtakes a flight, a new call can join the flight and is handed the
token that was rejected. -/
theorem overtaken_returns (client : Client) (maxTTL : Int) (overtakes : Overtakes sha256 s input) :
    ∃ history t, Run (step sha256 client maxTTL) s ((s, .invalidate input) :: history) t ∧
      values t = values s ∧ ∃ call ∈ s.calls, ∃ received, call.phase = .returned (.ok received) ∧
      computeDeduplicationKey sha256 call.input = computeDeduplicationKey sha256 input ∧
      ∃ c later token, s.calls.length ≤ c ∧ t.calls[c]? = some later ∧
        later.phase = .returned (.ok token) ∧ token.value = received.value := by
  obtain ⟨f, flight, token, flying, flown, stored, call, member, received, returned, same, key⟩ :=
    overtakes
  obtain ⟨history, t, run, once, later, here, handed⟩ := joins_stored client maxTTL
    (s := { s with cache := Assoc.drop (computeDeduplicationKey sha256 input) s.cache })
    ((Assoc.lookup_drop _ _ _).trans (if_pos rfl)) flying flown stored
  exact ⟨history, t, .cons rfl run, once, call, member, received, returned, key, s.calls.length,
    later, token, Nat.le_refl _, here, handed, same.symm⟩

end rejected

/-- In a run in which no `Invalidate` overtakes a flight, a token that was received and then
invalidated is not returned by a call that starts later. An `Invalidate` that does overtake one can
be continued to such a return. -/
theorem rejected_stays_away (sha256 : Bytes → Bytes) (client : Client) (maxTTL : Int)
    (history : List (State × Action)) (t : State)
    (run : Run (step sha256 client maxTTL) State.init history t) (once : (values t).Nodup)
    (apart : ∀ p ∈ history, ∀ input, p.2 = .invalidate input → ¬ Overtakes sha256 p.1 input) :
    (∀ before s input after, history = before ++ (s, .invalidate input) :: after →
      ∀ call ∈ s.calls, ∀ received, call.phase = .returned (.ok received) →
      computeDeduplicationKey sha256 call.input = computeDeduplicationKey sha256 input →
      ∀ c later token, s.calls.length ≤ c → t.calls[c]? = some later →
      later.phase = .returned (.ok token) → token.value ≠ received.value) ∧
    ∀ input, Overtakes sha256 t input →
      ∃ history u, Run (step sha256 client maxTTL) t ((t, .invalidate input) :: history) u ∧
        (values u).Nodup ∧ ∃ call ∈ t.calls, ∃ received, call.phase = .returned (.ok received) ∧
        computeDeduplicationKey sha256 call.input = computeDeduplicationKey sha256 input ∧
        ∃ c later token, t.calls.length ≤ c ∧ u.calls[c]? = some later ∧
          later.phase = .returned (.ok token) ∧ token.value = received.value := by
  constructor
  · rintro before s input after rfl call member received returned key c later token late here handed
    have linked : Linked sha256 client s :=
      (linked_run run).2 (s, .invalidate input) (List.mem_append_right _ List.mem_cons_self)
    obtain ⟨s', -, rest⟩ := run.split
    cases rest with
    | cons taken rest =>
        have moves := step_moves taken
        obtain rfl := Option.some.inj taken
        have grows := moves.issued_extends.trans (run_issued_extends rest)
        have spent := spent_of_invalidate linked (once_of_extends grows once)
          (apart (s, .invalidate input) (List.mem_append_right _ List.mem_cons_self) input rfl)
          member returned key
        have spent := run_spent rest (moves.linked linked) spent once
        exact spent.untaken c later here late token (by rw [handed]; rfl)
  · intro input overtakes
    obtain ⟨history, u, run, same, rest⟩ := overtaken_returns client maxTTL overtakes
    exact ⟨history, u, run, same ▸ once, rest⟩

def storing : List Action :=
  [.exchange alice, .guard 0, .get 0 0, .doChan 0, .answer 0 (.ok ⟨"A", 500⟩), .put 0 1]

theorem rejected_stays_away_landed : ∃ before s after t,
    Run (step digest keycloak 1000) State.init (before ++ (s, .invalidate alice) :: after) t ∧
    (∃ call ∈ s.calls, call.input = alice ∧ call.phase = .returned (.ok ⟨"A", 500⟩)) ∧
    t.calls[1]? = some ⟨alice, none, .returned (.ok ⟨"B", 500⟩)⟩ ∧
    ∀ c later token, s.calls.length ≤ c → t.calls[c]? = some later →
      later.phase = .returned (.ok token) → token.value ≠ "A" := by
  obtain ⟨s, u, t, begun, rejected, ended, received, grounded, issued, second⟩ : ∃ s u t,
      exec (step digest keycloak 1000) State.init (storing ++ [.finish 0, .receive 0]) = some s ∧
      step digest keycloak 1000 s (.invalidate alice) = some u ∧
      exec (step digest keycloak 1000) u [.exchange alice, .guard 1, .get 1 2, .doChan 1,
        .answer 1 (.ok ⟨"B", 500⟩), .put 1 3, .finish 1, .receive 1] = some t ∧
      s.calls[0]? = some ⟨alice, none, .returned (.ok ⟨"A", 500⟩)⟩ ∧ s.group = [] ∧
      values t = ["A", "B"] ∧ t.calls[1]? = some ⟨alice, none, .returned (.ok ⟨"B", 500⟩)⟩ :=
    ⟨_, _, _, rfl, rfl, rfl, rfl, rfl, rfl, rfl⟩
  have run := (run_of_exec begun).append (.cons rejected (run_of_exec ended))
  have member := List.mem_of_getElem? received
  have law := rejected_stays_away digest keycloak 1000 _ t run (by rw [issued]; decide) ?_
  · exact ⟨_, s, _, t, run, ⟨_, member, rfl, rfl⟩, second, law.1 _ s alice _ rfl _ member _ rfl rfl⟩
  · intro p visited input invalidates
    rcases List.mem_append.mp visited with early | late
    · have listed := action_of_mem_trace early
      rw [invalidates] at listed
      simp [storing] at listed
    · rcases List.mem_cons.mp late with rfl | later
      · rintro ⟨f, flight, token, flying, -⟩
        rw [grounded] at flying
        cases flying
      · have listed := action_of_mem_trace later
        rw [invalidates] at listed
        simp at listed

/-- The flight has put its token into the cache and is not forgotten when a second call takes the
token from there and has it invalidated: the third call joins the flight and is handed it again. -/
theorem rejected_comes_back : ∃ before s after t,
    Run (step digest keycloak 1000) State.init (before ++ (s, .invalidate alice) :: after) t ∧
    (values t).Nodup ∧
    (∃ call ∈ s.calls, call.input = alice ∧ call.phase = .returned (.ok ⟨"A", 500⟩)) ∧
    ∃ c later, s.calls.length ≤ c ∧ t.calls[c]? = some later ∧ later.input = alice ∧
      later.phase = .returned (.ok ⟨"A", 500⟩) := by
  obtain ⟨s, u, t, begun, rejected, ended, count, received, issued, again⟩ : ∃ s u t,
      exec (step digest keycloak 1000) State.init
        (storing ++ [.exchange alice, .guard 1, .get 1 2, .serve 1]) = some s ∧
      step digest keycloak 1000 s (.invalidate alice) = some u ∧
      exec (step digest keycloak 1000) u
        [.exchange alice, .guard 2, .get 2 3, .doChan 2, .finish 0, .receive 2] = some t ∧
      s.calls.length = 2 ∧ s.calls[1]? = some ⟨alice, none, .returned (.ok ⟨"A", 500⟩)⟩ ∧
      values t = ["A"] ∧ t.calls[2]? = some ⟨alice, none, .returned (.ok ⟨"A", 500⟩)⟩ :=
    ⟨_, _, _, rfl, rfl, rfl, rfl, rfl, rfl, rfl⟩
  exact ⟨_, s, _, t, (run_of_exec begun).append (.cons rejected (run_of_exec ended)),
    by rw [issued]; decide, ⟨_, List.mem_of_getElem? received, rfl, rfl⟩, 2, _,
    Nat.le_of_eq count, again, rfl, rfl⟩

end BrokerMcp.Proof.TokenExchange
