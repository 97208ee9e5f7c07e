import BrokerMcp.Library.Cells
import BrokerMcp.TokenExchange.Exchanger

namespace BrokerMcp.Proof.TokenExchange
open BrokerMcp.TokenExchange
open Transition
open Text (Bytes)

/-! ## What a step does -/

def CallPhase.token? : CallPhase → Option Token
  | .found token => some token
  | .returned (.ok token) => some token
  | _ => none

def FlightPhase.token? : FlightPhase → Option Token
  | .issued token => some token
  | .stored token => some token
  | .landed (.ok token) => some token
  | _ => none

def FlightPhase.past : FlightPhase → Bool
  | .running => false
  | .issued _ => false
  | _ => true

def FlightPhase.isLanded : FlightPhase → Bool
  | .landed _ => true
  | _ => false

section moves

variable (sha256 : Bytes → Bytes) (client : Client) (maxTTL : Int)

inductive Advances (s : State) (call : Call) : CallPhase → Prop where
  | stays : Advances s call call.phase
  | quiet {phase : CallPhase} (empty : CallPhase.token? phase = none)
      (apart : ∀ f, phase ≠ .waiting f) : Advances s call phase
  | finds {token : Token}
      (found : s.cache.lookup (computeDeduplicationKey sha256 call.input) = some token) :
      Advances s call (.found token)
  | serves {token : Token} (found : call.phase = .found token) :
      Advances s call (.returned (.ok token))
  | joins {f : Nat}
      (flying : s.group.lookup (computeDeduplicationKey sha256 call.input) = some f) :
      Advances s call (.waiting f)
  | receives {f : Nat} {flight : Flight} {token : Token} (waiting : call.phase = .waiting f)
      (flown : s.flights[f]? = some flight) (landed : flight.phase = .landed (.ok token)) :
      Advances s call (.returned (.ok token))

inductive Moves (s : State) : Action → State → Prop where
  | exchange (input : ExchangeInput) :
      Moves s (.exchange input) { s with calls := s.calls ++ [⟨input, none, .called⟩] }
  | call {a : Action} {c : Nat} {call next : Call} (here : s.calls[c]? = some call)
      (input : next.input = call.input) (advances : Advances sha256 s call next.phase) :
      Moves s a { s with calls := s.calls.set c next }
  | starts {a : Action} {c : Nat} {call next : Call} (here : s.calls[c]? = some call)
      (input : next.input = call.input)
      (absent : s.group.lookup (computeDeduplicationKey sha256 call.input) = none)
      (waiting : next.phase = .waiting s.flights.length) :
      Moves s a { s with
        calls := s.calls.set c next
        flights := s.flights ++ [⟨computeDeduplicationKey sha256 call.input, call.input, .running⟩]
        group := Assoc.put (computeDeduplicationKey sha256 call.input) s.flights.length s.group }
  | fails {a : Action} {f : Nat} {flight : Flight} {err : FlightError}
      (flown : s.flights[f]? = some flight) (aloft : FlightPhase.isLanded flight.phase = false) :
      Moves s a (s.setPhase f flight (.failed err))
  | issues {a : Action} {f : Nat} {flight : Flight} {request : Request} {token : Token}
      (flown : s.flights[f]? = some flight) (running : flight.phase = .running)
      (built : buildIdPRequest client flight.input = .ok request) :
      Moves s a { s.setPhase f flight (.issued token) with
        issued := s.issued ++ [⟨f, request, token⟩] }
  | stores {a : Action} {f : Nat} {flight : Flight} {token : Token} {now : Int}
      (flown : s.flights[f]? = some flight) (issued : flight.phase = .issued token) :
      Moves s a { s.setPhase f flight (.stored token) with
        cache := putToken maxTTL now flight.key token s.cache }
  | lands {a : Action} {f : Nat} {flight : Flight} {result : Except FlightError Token}
      (flown : s.flights[f]? = some flight) (returns : flight.phase.result? = some result) :
      Moves s a { s.setPhase f flight (.landed result) with
        group := if s.group.lookup flight.key = some f then Assoc.drop flight.key s.group
          else s.group }
  | drops (key : String) (a : Action)
      (exact : ∀ input, a = .invalidate input → key = computeDeduplicationKey sha256 input) :
      Moves s a { s with cache := Assoc.drop key s.cache }

end moves

section inversion

variable {sha256 : Bytes → Bytes} {client : Client} {maxTTL : Int} {s t : State} {c f : Nat}

theorem moveCall_inv {move : Call → Option Call} (moved : s.moveCall c move = some t) :
    ∃ call next, s.calls[c]? = some call ∧ move call = some next ∧
      t = { s with calls := s.calls.set c next } := by
  obtain ⟨call, here, moved⟩ := Option.bind_eq_some_iff.mp moved
  obtain ⟨next, moves, moved⟩ := Option.bind_eq_some_iff.mp moved
  exact ⟨call, next, here, moves, (Option.some.inj moved).symm⟩

theorem movePhase_inv {move : FlightPhase → Option FlightPhase}
    (moved : s.movePhase f move = some t) :
    ∃ flight phase, s.flights[f]? = some flight ∧ move flight.phase = some phase ∧
      t = s.setPhase f flight phase := by
  obtain ⟨flight, flown, moved⟩ := Option.bind_eq_some_iff.mp moved
  obtain ⟨phase, moves, moved⟩ := Option.bind_eq_some_iff.mp moved
  exact ⟨flight, phase, flown, moves, (Option.some.inj moved).symm⟩

theorem fail_inv {err : FlightError} {phase next : FlightPhase}
    (failed : FlightPhase.fail err phase = some next) :
    phase = .running ∧ next = .failed err := by
  cases phase <;> simp_all [FlightPhase.fail]

theorem panic_inv {phase next : FlightPhase} (failed : FlightPhase.panic phase = some next) :
    FlightPhase.isLanded phase = false ∧ next = .failed .panicked := by
  cases phase <;> simp_all [FlightPhase.panic, FlightPhase.isLanded]

theorem result_inv {phase : FlightPhase} {result : Except FlightError Token}
    (returns : phase.result? = some result) :
    FlightPhase.isLanded phase = false ∧
      FlightPhase.token? (.landed result) = FlightPhase.token? phase := by
  cases phase with
  | stored token =>
      obtain rfl := Option.some.inj returns
      exact ⟨rfl, rfl⟩
  | failed err =>
      obtain rfl := Option.some.inj returns
      exact ⟨rfl, rfl⟩
  | running | issued _ | landed _ => cases returns

theorem movesCall {a : Action} {move : Call → Option Call} (moved : s.moveCall c move = some t)
    (advances : ∀ call next, move call = some next →
      next.input = call.input ∧ Advances sha256 s call next.phase) :
    Moves sha256 client maxTTL s a t := by
  obtain ⟨call, next, here, moves, rfl⟩ := moveCall_inv moved
  obtain ⟨input, advances⟩ := advances call next moves
  exact .call here input advances

theorem abandon_advances (call : Call) (cause : Resilience.ContextError) :
    (call.abandon cause).input = call.input ∧
      Advances sha256 s call (call.abandon cause).phase :=
  ⟨rfl, .quiet rfl (by simp [Call.abandon])⟩

theorem guard_advances {call next : Call} (moved : call.guard = some next) :
    next.input = call.input ∧ Advances sha256 s call next.phase := by
  unfold Call.guard at moved
  split at moved
  · obtain rfl := Option.some.inj moved
    exact abandon_advances call _
  · obtain rfl := Option.some.inj moved
    exact ⟨rfl, .quiet rfl (by simp)⟩
  · cases moved

theorem lookup_of_fresh {cache : List (String × Token)} {key : String} {now : Int} {token : Token}
    (found : fresh? cache key now = some token) : cache.lookup key = some token :=
  (Option.filter_eq_some_iff.mp found).1

theorem get_advances {call next : Call} {now : Int}
    (moved : call.get (fresh? s.cache (computeDeduplicationKey sha256 call.input) now) = some next) :
    next.input = call.input ∧ Advances sha256 s call next.phase := by
  unfold Call.get at moved
  split at moved
  · next found =>
      obtain rfl := Option.some.inj moved
      exact ⟨rfl, .finds (lookup_of_fresh found)⟩
  · obtain rfl := Option.some.inj moved
    exact ⟨rfl, .quiet rfl (by simp)⟩
  · cases moved

theorem serve_advances {call next : Call} (moved : call.serve = some next) :
    next.input = call.input ∧ Advances sha256 s call next.phase := by
  unfold Call.serve at moved
  split at moved
  · obtain rfl := Option.some.inj moved
    exact abandon_advances call _
  · next found _ =>
      obtain rfl := Option.some.inj moved
      exact ⟨rfl, .serves found⟩
  · cases moved

theorem receive_advances {call next : Call} (moved : s.receive call = some next) :
    next.input = call.input ∧ Advances sha256 s call next.phase := by
  obtain ⟨f, waits, moved⟩ := Option.bind_eq_some_iff.mp moved
  obtain ⟨flight, flown, moved⟩ := Option.bind_eq_some_iff.mp moved
  have waiting : call.phase = .waiting f := by
    unfold Call.flight? at waits
    split at waits
    · next waiting => rw [waiting, Option.some.inj waits]
    · cases waits
  unfold Call.receive at moved
  split at moved
  · obtain rfl := Option.some.inj moved
    exact abandon_advances call _
  · next landed _ =>
      obtain rfl := Option.some.inj moved
      exact ⟨rfl, .receives waiting flown landed⟩
  · obtain rfl := Option.some.inj moved
    exact ⟨rfl, .quiet rfl (by simp)⟩
  · cases moved

theorem leave_advances {call next : Call} (moved : call.leave = some next) :
    next.input = call.input ∧ Advances sha256 s call next.phase := by
  unfold Call.leave at moved
  split at moved
  · obtain rfl := Option.some.inj moved
    exact abandon_advances call _
  · cases moved

theorem cancel_advances {call next : Call} {cause : Resilience.ContextError}
    (moved : call.cancel cause = some next) :
    next.input = call.input ∧ Advances sha256 s call next.phase := by
  unfold Call.cancel at moved
  split at moved
  · obtain rfl := Option.some.inj moved
    exact ⟨rfl, .stays⟩
  · cases moved

theorem join_inv {call next : Call} (joined : call.join f = some next) :
    next.input = call.input ∧ next.phase = .waiting f := by
  unfold Call.join at joined
  split at joined
  · obtain rfl := Option.some.inj joined
    exact ⟨rfl, rfl⟩
  · cases joined

theorem doChan_moves {a : Action} (moved : s.doChan sha256 c = some t) :
    Moves sha256 client maxTTL s a t := by
  obtain ⟨call, here, moved⟩ := Option.bind_eq_some_iff.mp moved
  cases flying : s.group.lookup (computeDeduplicationKey sha256 call.input) with
  | some f =>
      simp only [flying] at moved
      obtain ⟨next, joined, moved⟩ := Option.bind_eq_some_iff.mp moved
      obtain rfl := Option.some.inj moved
      obtain ⟨input, waiting⟩ := join_inv joined
      exact .call here input (waiting ▸ .joins flying)
  | none =>
      simp only [flying] at moved
      obtain ⟨next, joined, moved⟩ := Option.bind_eq_some_iff.mp moved
      obtain rfl := Option.some.inj moved
      obtain ⟨input, waiting⟩ := join_inv joined
      exact .starts here input flying waiting

theorem answer_moves {a : Action} {result : Except Err Token}
    (moved : s.answer client f result = some t) : Moves sha256 client maxTTL s a t := by
  obtain ⟨flight, flown, moved⟩ := Option.bind_eq_some_iff.mp moved
  have aloft (running : flight.phase = .running) : FlightPhase.isLanded flight.phase = false := by
    rw [running]
    rfl
  split at moved
  · next running =>
      split at moved
      · obtain rfl := Option.some.inj moved
        exact .fails flown (aloft running)
      · obtain rfl := Option.some.inj moved
        exact .fails flown (aloft running)
      · next built _ =>
          obtain rfl := Option.some.inj moved
          exact .issues flown running built
  · cases moved

theorem put_moves {a : Action} {now : Int} (moved : s.put maxTTL f now = some t) :
    Moves sha256 client maxTTL s a t := by
  obtain ⟨flight, flown, moved⟩ := Option.bind_eq_some_iff.mp moved
  split at moved
  · next issued =>
      obtain rfl := Option.some.inj moved
      exact .stores flown issued
  · cases moved

theorem finish_moves {a : Action} (moved : s.finish f = some t) :
    Moves sha256 client maxTTL s a t := by
  obtain ⟨flight, flown, moved⟩ := Option.bind_eq_some_iff.mp moved
  obtain ⟨result, returns, moved⟩ := Option.bind_eq_some_iff.mp moved
  obtain rfl := Option.some.inj moved
  exact .lands flown returns

theorem fail_moves {a : Action} {err : FlightError}
    (moved : s.movePhase f (FlightPhase.fail err) = some t) : Moves sha256 client maxTTL s a t := by
  obtain ⟨flight, phase, flown, moves, rfl⟩ := movePhase_inv moved
  obtain ⟨running, rfl⟩ := fail_inv moves
  exact .fails flown (by rw [running]; rfl)

theorem step_moves {a : Action} (taken : step sha256 client maxTTL s a = some t) :
    Moves sha256 client maxTTL s a t := by
  cases a with
  | exchange input =>
      obtain rfl := Option.some.inj taken
      exact .exchange input
  | cancel c cause => exact movesCall taken fun _ _ => cancel_advances
  | guard c => exact movesCall taken fun _ _ => guard_advances
  | get c now => exact movesCall taken fun _ _ => get_advances
  | serve c => exact movesCall taken fun _ _ => serve_advances
  | doChan c => exact doChan_moves taken
  | receive c => exact movesCall taken fun _ _ => receive_advances
  | abandon c => exact movesCall taken fun _ _ => leave_advances
  | gated f => exact fail_moves taken
  | refused f => exact fail_moves taken
  | answer f result => exact answer_moves taken
  | put f now => exact put_moves taken
  | panicked f =>
      obtain ⟨flight, phase, flown, moves, rfl⟩ := movePhase_inv taken
      obtain ⟨aloft, rfl⟩ := panic_inv moves
      exact .fails flown aloft
  | finish f => exact finish_moves taken
  | evict key =>
      obtain rfl := Option.some.inj taken
      exact .drops key _ (by simp)
  | invalidate input =>
      obtain rfl := Option.some.inj taken
      exact .drops _ _ (by simp)

end inversion

/-! ## What a step keeps -/

structure Extends (s t : State) : Prop where
  calls : ∀ (c : Nat) (call : Call), s.calls[c]? = some call →
    ∃ later : Call, t.calls[c]? = some later ∧ later.input = call.input
  flights : ∀ (f : Nat) (flight : Flight), s.flights[f]? = some flight →
    ∃ later : Flight, t.flights[f]? = some later ∧
    later.key = flight.key ∧ later.input = flight.input ∧
    (FlightPhase.past flight.phase = true → FlightPhase.past later.phase = true)
  issued : ∀ record ∈ s.issued, record ∈ t.issued

theorem Extends.refl (s : State) : Extends s s :=
  ⟨fun _ call here => ⟨call, here, rfl⟩, fun _ flight flown => ⟨flight, flown, rfl, rfl, id⟩,
    fun _ => id⟩

section extending

variable {sha256 : Bytes → Bytes} {client : Client} {maxTTL : Int} {s t : State} {a : Action}
  {c f : Nat} {call next : Call} {flight : Flight} {phase : FlightPhase}

theorem calls_set (here : s.calls[c]? = some call) (input : next.input = call.input) :
    ∀ (d : Nat) (other : Call), s.calls[d]? = some other →
      ∃ later, (s.calls.set c next)[d]? = some later ∧ later.input = other.input := by
  intro d other there
  rw [Cells.getElem?_set_of_some here]
  split_ifs with same
  · subst same
    obtain rfl := Option.some.inj (here.symm.trans there)
    exact ⟨next, rfl, input⟩
  · exact ⟨other, there, rfl⟩

theorem flights_set (flown : s.flights[f]? = some flight)
    (past : FlightPhase.past flight.phase = true → FlightPhase.past phase = true) :
    ∀ (g : Nat) (other : Flight), s.flights[g]? = some other →
      ∃ later, (s.flights.set f { flight with phase })[g]? = some later ∧
        later.key = other.key ∧ later.input = other.input ∧
        (FlightPhase.past other.phase = true → FlightPhase.past later.phase = true) := by
  intro g other there
  rw [Cells.getElem?_set_of_some flown]
  split_ifs with same
  · subst same
    obtain rfl := Option.some.inj (flown.symm.trans there)
    exact ⟨{ flight with phase }, rfl, rfl, rfl, past⟩
  · exact ⟨other, there, rfl, rfl, id⟩

theorem getElem?_snoc_of_some {α : Type*} {l : List α} {x b : α} {i : Nat} (here : l[i]? = some x) :
    (l ++ [b])[i]? = some x := by
  rw [List.getElem?_append_left (Cells.lt_of_some here), here]

theorem Moves.extends (moves : Moves sha256 client maxTTL s a t) : Extends s t := by
  cases moves with
  | exchange input =>
      exact { Extends.refl s with
        calls := fun c call here => ⟨call, getElem?_snoc_of_some here, rfl⟩ }
  | call here input advances => exact { Extends.refl s with calls := calls_set here input }
  | starts here input absent waiting =>
      exact { Extends.refl s with
        calls := calls_set here input
        flights := fun f flight flown => ⟨flight, getElem?_snoc_of_some flown, rfl, rfl, id⟩ }
  | fails flown aloft => exact { Extends.refl s with flights := flights_set flown fun _ => rfl }
  | issues flown running built =>
      exact { Extends.refl s with
        flights := flights_set flown (by rw [running]; exact id)
        issued := fun _ member => List.mem_append_left _ member }
  | stores flown issued => exact { Extends.refl s with flights := flights_set flown fun _ => rfl }
  | lands flown returns => exact { Extends.refl s with flights := flights_set flown fun _ => rfl }
  | drops key a exact => exact { Extends.refl s with }

end extending

/-! ## Where tokens come from -/

def Sourced (s : State) (key : String) (token : Token) : Prop :=
  ∃ record ∈ s.issued, record.token = token ∧
    ∃ flight, s.flights[record.flight]? = some flight ∧ flight.key = key ∧
      FlightPhase.past flight.phase = true

theorem Sourced.mono {s t : State} {key : String} {token : Token} (grows : Extends s t)
    (sourced : Sourced s key token) : Sourced t key token := by
  obtain ⟨record, member, issued, flight, flown, keyed, past⟩ := sourced
  obtain ⟨later, flown', keyed', -, past'⟩ := grows.flights _ _ flown
  exact ⟨record, grows.issued record member, issued, later, flown', keyed'.trans keyed, past' past⟩

section links

variable (sha256 : Bytes → Bytes) (client : Client)

structure Linked (s : State) : Prop where
  recorded : ∀ record ∈ s.issued, ∃ flight, s.flights[record.flight]? = some flight ∧
    buildIdPRequest client flight.input = .ok record.request
  keyed : ∀ (f : Nat) (flight : Flight), s.flights[f]? = some flight →
    flight.key = computeDeduplicationKey sha256 flight.input
  called : ∀ (f : Nat) (flight : Flight), s.flights[f]? = some flight →
    ∃ (c : Nat) (call : Call), s.calls[c]? = some call ∧ call.input = flight.input
  funded : ∀ (f : Nat) (flight : Flight), s.flights[f]? = some flight → ∀ token,
    FlightPhase.token? flight.phase = some token →
    ∃ record ∈ s.issued, record.flight = f ∧ record.token = token
  aloft : ∀ (f : Nat) (flight : Flight), s.flights[f]? = some flight → FlightPhase.isLanded flight.phase = false →
    s.group.lookup flight.key = some f
  registered : ∀ key f, s.group.lookup key = some f → ∃ flight : Flight, s.flights[f]? = some flight ∧
    flight.key = key ∧ FlightPhase.isLanded flight.phase = false
  cached : ∀ key token, s.cache.lookup key = some token → Sourced s key token
  taken : ∀ (c : Nat) (call : Call), s.calls[c]? = some call → ∀ token, CallPhase.token? call.phase = some token →
    Sourced s (computeDeduplicationKey sha256 call.input) token
  joined : ∀ (c : Nat) (call : Call), s.calls[c]? = some call → ∀ f, call.phase = .waiting f →
    ∃ flight, s.flights[f]? = some flight ∧ flight.key = computeDeduplicationKey sha256 call.input

theorem linked_init : Linked sha256 client State.init := by
  constructor <;> simp [State.init]

end links

section linking

variable {sha256 : Bytes → Bytes} {client : Client} {maxTTL : Int} {s t : State} {a : Action}
  {c f : Nat} {call next : Call} {flight : Flight} {phase : FlightPhase}

theorem Linked.recorded_mono (linked : Linked sha256 client s) (grows : Extends s t)
    (record : Issuance) (member : record ∈ s.issued) :
    ∃ flight, t.flights[record.flight]? = some flight ∧
      buildIdPRequest client flight.input = .ok record.request := by
  obtain ⟨flight, flown, built⟩ := linked.recorded record member
  obtain ⟨later, flown', -, input, -⟩ := grows.flights _ _ flown
  exact ⟨later, flown', input ▸ built⟩

theorem Linked.called_mono (linked : Linked sha256 client s) (grows : Extends s t) (f : Nat)
    (flight : Flight) (flown : s.flights[f]? = some flight) :
    ∃ (c : Nat) (call : Call), t.calls[c]? = some call ∧ call.input = flight.input := by
  obtain ⟨c, call, here, input⟩ := linked.called f flight flown
  obtain ⟨later, here', input'⟩ := grows.calls c call here
  exact ⟨c, later, here', input'.trans input⟩

theorem Linked.joined_mono (linked : Linked sha256 client s) (grows : Extends s t) (c : Nat)
    (call : Call) (here : s.calls[c]? = some call) (f : Nat) (waiting : call.phase = .waiting f) :
    ∃ flight, t.flights[f]? = some flight ∧
      flight.key = computeDeduplicationKey sha256 call.input := by
  obtain ⟨flight, flown, keyed⟩ := linked.joined c call here f waiting
  obtain ⟨later, flown', keyed', -⟩ := grows.flights f flight flown
  exact ⟨later, flown', keyed'.trans keyed⟩

theorem Linked.taken_mono (linked : Linked sha256 client s) (grows : Extends s t) (c : Nat)
    (call : Call) (here : s.calls[c]? = some call) (token : Token)
    (holds : CallPhase.token? call.phase = some token) :
    Sourced t (computeDeduplicationKey sha256 call.input) token :=
  (linked.taken c call here token holds).mono grows

theorem Advances.sourced (linked : Linked sha256 client s) (here : s.calls[c]? = some call)
    {phase : CallPhase} (advances : Advances sha256 s call phase) {token : Token}
    (holds : CallPhase.token? phase = some token) :
    Sourced s (computeDeduplicationKey sha256 call.input) token := by
  cases advances with
  | stays => exact linked.taken c call here token holds
  | quiet empty _ => rw [empty] at holds; cases holds
  | finds found =>
      obtain rfl := Option.some.inj holds
      exact linked.cached _ _ found
  | serves found =>
      obtain rfl := Option.some.inj holds
      exact linked.taken c call here _ (by rw [found]; rfl)
  | joins _ => cases holds
  | @receives g flight _ waiting flown landed =>
      obtain rfl := Option.some.inj holds
      obtain ⟨record, member, source, issued⟩ := linked.funded g flight flown _ (by rw [landed]; rfl)
      obtain ⟨joined, flown', keyed⟩ := linked.joined c call here g waiting
      obtain rfl := Option.some.inj (flown.symm.trans flown')
      exact ⟨record, member, issued, flight, source ▸ flown, keyed, by rw [landed]; rfl⟩

theorem Advances.joined (linked : Linked sha256 client s) (here : s.calls[c]? = some call)
    {phase : CallPhase} (advances : Advances sha256 s call phase) (waiting : phase = .waiting f) :
    ∃ flight, s.flights[f]? = some flight ∧
      flight.key = computeDeduplicationKey sha256 call.input := by
  cases advances with
  | stays => exact linked.joined c call here f waiting
  | quiet _ apart => exact absurd waiting (apart f)
  | joins flying =>
      obtain ⟨rfl⟩ := waiting
      obtain ⟨flight, flown, keyed, -⟩ := linked.registered _ _ flying
      exact ⟨flight, flown, keyed⟩
  | finds | serves | receives => cases waiting

theorem Linked.exchange (linked : Linked sha256 client s) (input : ExchangeInput) :
    Linked sha256 client { s with calls := s.calls ++ [⟨input, none, .called⟩] } := by
  have grows : Extends s { s with calls := s.calls ++ [⟨input, none, .called⟩] } :=
    { Extends.refl s with calls := fun c call here => ⟨call, getElem?_snoc_of_some here, rfl⟩ }
  refine { linked with called := ?_, cached := ?_, taken := ?_, joined := ?_ }
  · exact linked.called_mono grows
  · exact fun key token found => (linked.cached key token found).mono grows
  · refine Cells.forall_snoc (linked.taken_mono grows) ?_
    intro token holds
    cases holds
  · refine Cells.forall_snoc (linked.joined_mono grows) ?_
    intro f waiting
    cases waiting

theorem Linked.advance (linked : Linked sha256 client s) (here : s.calls[c]? = some call)
    (input : next.input = call.input) (advances : Advances sha256 s call next.phase) :
    Linked sha256 client { s with calls := s.calls.set c next } := by
  have grows : Extends s { s with calls := s.calls.set c next } :=
    { Extends.refl s with calls := calls_set here input }
  refine { linked with called := ?_, cached := ?_, taken := ?_, joined := ?_ }
  · exact linked.called_mono grows
  · exact fun key token found => (linked.cached key token found).mono grows
  · refine Cells.forall_set here (linked.taken_mono grows) ?_
    intro token holds
    rw [input]
    exact (advances.sourced linked here holds).mono grows
  · refine Cells.forall_set here (linked.joined_mono grows) ?_
    intro f waiting
    rw [input]
    have joins := advances.joined linked here waiting
    exact joins

theorem Linked.rephase (linked : Linked sha256 client s) (flown : s.flights[f]? = some flight)
    (grows : Extends s t) (calls : t.calls = s.calls)
    (flights : t.flights = s.flights.set f { flight with phase })
    (recorded : ∀ record ∈ t.issued, record ∈ s.issued ∨
      record.flight = f ∧ buildIdPRequest client flight.input = .ok record.request)
    (funded : ∀ token, FlightPhase.token? phase = some token →
      ∃ record ∈ t.issued, record.flight = f ∧ record.token = token)
    (aloft : FlightPhase.isLanded phase = false → t.group.lookup flight.key = some f)
    (others : ∀ key g, g ≠ f → (t.group.lookup key = some g ↔ s.group.lookup key = some g))
    (registered : ∀ key, t.group.lookup key = some f →
      key = flight.key ∧ FlightPhase.isLanded phase = false)
    (cached : ∀ key token, t.cache.lookup key = some token → Sourced t key token) :
    Linked sha256 client t where
  recorded := by
    intro record member
    rcases recorded record member with old | ⟨here, built⟩
    · exact linked.recorded_mono grows record old
    · refine ⟨{ flight with phase }, ?_, built⟩
      rw [flights, here, Cells.getElem?_set_of_some flown, if_pos rfl]
  keyed := by
    rw [flights]
    exact Cells.forall_set flown linked.keyed (linked.keyed f flight flown)
  called := by
    rw [flights]
    exact Cells.forall_set flown (linked.called_mono grows) (linked.called_mono grows f flight flown)
  funded := by
    rw [flights]
    refine Cells.forall_set flown ?_ funded
    intro g other there token holds
    obtain ⟨record, member, source⟩ := linked.funded g other there token holds
    exact ⟨record, grows.issued record member, source⟩
  aloft := by
    intro g other there aloft'
    rw [flights, Cells.getElem?_set_of_some flown] at there
    split_ifs at there with same
    · obtain rfl := Option.some.inj there
      exact same ▸ aloft aloft'
    · exact (others _ g same).mpr (linked.aloft g other there aloft')
  registered := by
    intro key g found
    rw [flights, Cells.getElem?_set_of_some flown]
    by_cases same : g = f
    · subst same
      obtain ⟨rfl, aloft'⟩ := registered key found
      exact ⟨{ flight with phase }, if_pos rfl, rfl, aloft'⟩
    · rw [if_neg same]
      exact linked.registered key g ((others key g same).mp found)
  cached := cached
  taken := by
    rw [calls]
    exact linked.taken_mono grows
  joined := by
    rw [calls]
    exact linked.joined_mono grows

theorem Linked.start (linked : Linked sha256 client s) (here : s.calls[c]? = some call)
    (input : next.input = call.input)
    (absent : s.group.lookup (computeDeduplicationKey sha256 call.input) = none)
    (waiting : next.phase = .waiting s.flights.length)
    (grows : Extends s t) (calls : t.calls = s.calls.set c next)
    (flights : t.flights = s.flights ++
      [⟨computeDeduplicationKey sha256 call.input, call.input, .running⟩])
    (group : t.group =
      Assoc.put (computeDeduplicationKey sha256 call.input) s.flights.length s.group)
    (cache : t.cache = s.cache) (issued : t.issued = s.issued) : Linked sha256 client t where
  recorded := by
    rw [issued]
    exact linked.recorded_mono grows
  keyed := by
    rw [flights]
    exact Cells.forall_snoc linked.keyed rfl
  called := by
    obtain ⟨later, here', input'⟩ := grows.calls c call here
    rw [flights]
    exact Cells.forall_snoc (linked.called_mono grows) ⟨c, later, here', input'⟩
  funded := by
    rw [flights, issued]
    exact Cells.forall_snoc linked.funded (fun token holds => by cases holds)
  aloft := by
    rw [flights, group]
    refine Cells.forall_snoc ?_ ?_
    · intro f flight flown aloft
      have flying := linked.aloft f flight flown aloft
      rw [Assoc.lookup_put, if_neg, flying]
      intro same
      rw [same, absent] at flying
      cases flying
    · intro _
      rw [Assoc.lookup_put, if_pos rfl]
  registered := by
    intro key f found
    rw [group, Assoc.lookup_put] at found
    rw [flights]
    split_ifs at found with same
    · obtain rfl := Option.some.inj found
      rw [Cells.getElem?_snoc, if_pos rfl]
      exact ⟨_, rfl, same.symm, rfl⟩
    · obtain ⟨flight, flown, keyed, aloft⟩ := linked.registered key f found
      exact ⟨flight, getElem?_snoc_of_some flown, keyed, aloft⟩
  cached := by
    rw [cache]
    exact fun key token found => (linked.cached key token found).mono grows
  taken := by
    rw [calls]
    refine Cells.forall_set here (linked.taken_mono grows) ?_
    intro token holds
    rw [waiting] at holds
    cases holds
  joined := by
    rw [calls]
    refine Cells.forall_set here (linked.joined_mono grows) ?_
    intro f joins
    rw [waiting] at joins
    obtain ⟨rfl⟩ := joins
    rw [flights, Cells.getElem?_snoc, if_pos rfl, input]
    exact ⟨_, rfl, rfl⟩

theorem lookup_putToken {now : Int} {key k : String} {token found : Token}
    {cache : List (String × Token)} (here : (putToken maxTTL now key token cache).lookup k = some found) :
    cache.lookup k = some found ∨ k = key ∧ found = token := by
  unfold putToken at here
  split_ifs at here
  · exact .inl here
  · rw [Assoc.lookup_put] at here
    split_ifs at here with same
    · exact .inr ⟨same, (Option.some.inj here).symm⟩
    · exact .inl here

theorem Linked.registered_key (linked : Linked sha256 client s)
    (flown : s.flights[f]? = some flight) {key : String} (found : s.group.lookup key = some f) :
    key = flight.key := by
  obtain ⟨other, flown', keyed, -⟩ := linked.registered key f found
  obtain rfl := Option.some.inj (flown.symm.trans flown')
  exact keyed.symm

theorem Moves.linked (linked : Linked sha256 client s) (moves : Moves sha256 client maxTTL s a t) :
    Linked sha256 client t := by
  have grows := moves.extends
  have sourced : ∀ key token, s.cache.lookup key = some token → Sourced t key token :=
    fun key token found => (linked.cached key token found).mono grows
  cases moves with
  | exchange input => exact linked.exchange input
  | call here input advances => exact linked.advance here input advances
  | starts here input absent waiting =>
      exact linked.start here input absent waiting grows rfl rfl rfl rfl rfl
  | fails flown aloft =>
      refine linked.rephase flown grows rfl rfl ?_ ?_ ?_ ?_ ?_ sourced
      · exact fun record member => .inl member
      · exact fun token holds => by cases holds
      · exact fun _ => linked.aloft _ _ flown aloft
      · exact fun _ _ _ => Iff.rfl
      · exact fun key found => ⟨linked.registered_key flown found, rfl⟩
  | @issues _ f flight request token flown running built =>
      refine linked.rephase flown grows rfl rfl ?_ ?_ ?_ ?_ ?_ sourced
      · intro record member
        rcases List.mem_append.mp member with old | new
        · exact .inl old
        · obtain rfl := List.mem_singleton.mp new
          exact .inr ⟨rfl, built⟩
      · intro token' holds
        obtain rfl := Option.some.inj holds
        exact ⟨⟨f, request, token⟩, List.mem_append_right _ (List.mem_singleton.mpr rfl), rfl, rfl⟩
      · exact fun _ => linked.aloft _ _ flown (by rw [running]; rfl)
      · exact fun _ _ _ => Iff.rfl
      · exact fun key found => ⟨linked.registered_key flown found, rfl⟩
  | @stores _ f flight token now flown issued =>
      obtain ⟨record, member, source, issuance⟩ :=
        linked.funded f flight flown token (by rw [issued]; rfl)
      have landed := Cells.getElem?_set_of_some flown { flight with phase := .stored token } f
      refine linked.rephase flown grows rfl rfl ?_ ?_ ?_ ?_ ?_ ?_
      · exact fun record member => .inl member
      · intro token' holds
        obtain rfl := Option.some.inj holds
        exact ⟨record, member, source, issuance⟩
      · exact fun _ => linked.aloft _ _ flown (by rw [issued]; rfl)
      · exact fun _ _ _ => Iff.rfl
      · exact fun key found => ⟨linked.registered_key flown found, rfl⟩
      · intro key found here
        rcases lookup_putToken here with old | ⟨rfl, rfl⟩
        · exact sourced key found old
        · refine ⟨record, member, issuance, { flight with phase := .stored found }, ?_, rfl, rfl⟩
          rw [source]
          exact landed.trans (if_pos rfl)
  | @lands _ f flight result flown returns =>
      obtain ⟨aloft, holding⟩ := result_inv returns
      have flying := linked.aloft f flight flown aloft
      refine linked.rephase flown grows rfl rfl ?_ ?_ ?_ ?_ ?_ sourced
      · exact fun record member => .inl member
      · intro token holds
        exact linked.funded f flight flown token (holding ▸ holds)
      · exact fun aloft => by cases aloft
      · intro key g other
        rw [if_pos flying, Assoc.lookup_drop]
        split_ifs with same
        · subst same
          simp [flying, Ne.symm other]
        · exact Iff.rfl
      · intro key found
        rw [if_pos flying, Assoc.lookup_drop] at found
        split_ifs at found with same
        exact absurd (linked.registered_key flown found) same
  | drops key a exact =>
      refine { linked with cached := ?_, taken := ?_ }
      · intro k token found
        rw [Assoc.lookup_drop] at found
        split_ifs at found
        exact sourced k token found
      · exact linked.taken_mono grows

end linking

theorem linked_run {sha256 : Bytes → Bytes} {client : Client} {maxTTL : Int} {t : State}
    {history : List (State × Action)}
    (run : Run (step sha256 client maxTTL) State.init history t) :
    Linked sha256 client t ∧ ∀ p ∈ history, Linked sha256 client p.1 :=
  run.invariant (linked_init sha256 client) fun _ _ _ linked taken => (step_moves taken).linked linked

end BrokerMcp.Proof.TokenExchange
