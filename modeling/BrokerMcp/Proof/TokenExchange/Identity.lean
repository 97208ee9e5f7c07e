import BrokerMcp.Proof.TokenExchange.Flights

namespace BrokerMcp.Proof.TokenExchange
open BrokerMcp.TokenExchange
open Transition
open Text (Bytes)

def NulFree (input : ExchangeInput) : Prop := 0 ∉ input.subjectToken ∧ 0 ∉ input.brokerAlias

instance (input : ExchangeInput) : Decidable (NulFree input) := inferInstanceAs (Decidable (_ ∧ _))

theorem separated_injective {α : Type*} {separator : α} {a b x y : List α} (freeA : separator ∉ a)
    (freeB : separator ∉ b) (same : a ++ separator :: x = b ++ separator :: y) : a = b ∧ x = y := by
  induction a generalizing b with
  | nil =>
      cases b with
      | nil => exact ⟨rfl, (List.cons.inj same).2⟩
      | cons d b => exact absurd ((List.cons.inj same).1 ▸ List.mem_cons_self) freeB
  | cons c a ih =>
      cases b with
      | nil => exact absurd ((List.cons.inj same).1 ▸ List.mem_cons_self) freeA
      | cons d b =>
          obtain ⟨rfl, tails⟩ := List.cons.inj same
          obtain ⟨rfl, rest⟩ := ih (fun member => freeA (List.mem_cons_of_mem c member))
            (fun member => freeB (List.mem_cons_of_mem c member)) tails
          exact ⟨rfl, rest⟩

theorem preimage_injective {a b : ExchangeInput} (cleanA : NulFree a) (cleanB : NulFree b)
    (same : preimage a = preimage b) : a = b := by
  obtain ⟨subject, rest⟩ := separated_injective cleanA.1 cleanB.1 same
  obtain ⟨brokerAlias, target⟩ := separated_injective cleanA.2 cleanB.2 rest
  cases a
  cases b
  simp_all only

theorem hexDigit_injective : ∀ m < 16, ∀ n < 16, hexDigit m = hexDigit n → m = n := by
  decide

theorem encodeToString_injective : Function.Injective encodeToString := by
  intro a b same
  have pairs := String.ofList_injective same
  clear same
  induction a generalizing b with
  | nil =>
      cases b with
      | nil => rfl
      | cons y b => cases pairs
  | cons x a ih =>
      cases b with
      | nil => cases pairs
      | cons y b =>
          simp only [List.flatMap_cons, List.cons_append, List.nil_append, List.cons.injEq] at pairs
          obtain ⟨high, low, rest⟩ := pairs
          have boundX := x.toNat_lt
          have boundY := y.toNat_lt
          have high := hexDigit_injective _ (by omega) _ (by omega) high
          have low := hexDigit_injective _ (by omega) _ (by omega) low
          have same : x.toNat = y.toNat := by omega
          rw [UInt8.toNat_inj.mp same, ih rest]

def Carries (client : Client) (request : Request) (input : ExchangeInput) : Prop :=
  request.form.lookup (subjectField client.grantType) = some input.subjectToken ∧
    (request.form.lookup (targetField client.grantType)).getD [] = input.target

theorem buildIdPRequest_carries {client : Client} {input : ExchangeInput} {request : Request}
    (built : buildIdPRequest client input = .ok request) : Carries client request input := by
  obtain ⟨grant, method, clientID, clientSecret, urlError⟩ := client
  unfold buildIdPRequest at built
  split at built
  · cases built
  · cases grant with
    | tokenExchange =>
        obtain rfl := Except.ok.inj built
        refine ⟨by simp [grantFields, subjectField, Assoc.lookup_cons_eq], ?_⟩
        cases method <;> by_cases empty : input.target = [] <;>
          simp [grantFields, subjectField, targetField, subjectTokenType, requestedTokenUse,
            clientAuth, Assoc.lookup_cons_eq, empty]
    | jwtBearer =>
        rw [setTarget] at built
        split at built
        · cases built
        · obtain rfl := Except.ok.inj built
          refine ⟨by simp [grantFields, subjectField, Assoc.lookup_cons_eq], ?_⟩
          cases method <;>
            simp [grantFields, subjectField, targetField, subjectTokenType, requestedTokenUse,
              clientAuth, Assoc.lookup_cons_eq]

def CollisionFree (sha256 : Bytes → Bytes) (t : State) : Prop :=
  ∀ a ∈ t.calls, ∀ b ∈ t.calls,
    sha256 (preimage a.input) = sha256 (preimage b.input) → preimage a.input = preimage b.input

theorem input_of_key {sha256 : Bytes → Bytes} {t : State} {a b : Call}
    (collisionFree : CollisionFree sha256 t) (clean : ∀ call ∈ t.calls, NulFree call.input)
    (memberA : a ∈ t.calls) (memberB : b ∈ t.calls)
    (same : computeDeduplicationKey sha256 a.input = computeDeduplicationKey sha256 b.input) :
    a.input = b.input := by
  have hashed := encodeToString_injective same
  have written := collisionFree a memberA b memberB hashed
  exact preimage_injective (clean a memberA) (clean b memberB) written

theorem collisionFree_of_inputs {sha256 : Bytes → Bytes} {t : State} {inputs : List ExchangeInput}
    (made : t.calls.map Call.input = inputs)
    (free : ∀ a ∈ inputs, ∀ b ∈ inputs,
      sha256 (preimage a) = sha256 (preimage b) → preimage a = preimage b) :
    CollisionFree sha256 t := by
  subst made
  exact fun a memberA b memberB =>
    free _ (List.mem_map_of_mem memberA) _ (List.mem_map_of_mem memberB)

/-- A call returns a token that was issued in answer to a request for its own subject and target. On
the way, every flight, the calls that wait for it and the cache use the key of one triple, which
what is hashed determines, and `Invalidate` removes the entry of that key. -/
theorem exchange_own_token (sha256 : Bytes → Bytes) (client : Client) (maxTTL : Int)
    (history : List (State × Action)) (t : State)
    (run : Run (step sha256 client maxTTL) State.init history t)
    (collisionFree : CollisionFree sha256 t) (clean : ∀ call ∈ t.calls, NulFree call.input) :
    (∀ call ∈ t.calls, ∀ token, call.phase = .returned (.ok token) →
      ∃ record ∈ t.issued, record.token = token ∧ Carries client record.request call.input) ∧
    (∀ a b, NulFree a → NulFree b → preimage a = preimage b → a = b) ∧
    (∀ flight ∈ t.flights, flight.key = computeDeduplicationKey sha256 flight.input) ∧
    (∀ call ∈ t.calls, ∀ f, call.phase = .waiting f → ∃ flight, t.flights[f]? = some flight ∧
      flight.input = call.input) ∧
    (∀ key token, t.cache.lookup key = some token → ∃ flight ∈ t.flights, flight.key = key ∧
      ∃ record ∈ t.issued, record.token = token ∧ Carries client record.request flight.input) ∧
    (∀ call ∈ t.calls, ∀ u, step sha256 client maxTTL t (.invalidate call.input) = some u →
      u.cache.lookup (computeDeduplicationKey sha256 call.input) = none) := by
  have linked := (linked_run run).1
  -- A flight whose key is the key of a call was started by a call with the same input.
  have own {call : Call} {f : Nat} {flight : Flight} (member : call ∈ t.calls)
      (flown : t.flights[f]? = some flight)
      (keyed : flight.key = computeDeduplicationKey sha256 call.input) :
      flight.input = call.input := by
    obtain ⟨c, starter, here, input⟩ := linked.called f flight flown
    rw [← input]
    apply input_of_key collisionFree clean (List.mem_of_getElem? here) member
    rw [input, ← linked.keyed f flight flown, keyed]
  refine ⟨?_, fun _ _ => preimage_injective, ?_, ?_, ?_, ?_⟩
  · intro call member token returned
    obtain ⟨c, here⟩ := List.mem_iff_getElem?.mp member
    obtain ⟨record, issued, same, flight, flown, keyed, -⟩ :=
      linked.taken c call here token (by rw [returned]; rfl)
    obtain ⟨flight', flown', built⟩ := linked.recorded record issued
    obtain rfl := Option.some.inj (flown.symm.trans flown')
    refine ⟨record, issued, same, ?_⟩
    rw [← own member flown keyed]
    exact buildIdPRequest_carries built
  · intro flight member
    obtain ⟨f, flown⟩ := List.mem_iff_getElem?.mp member
    exact linked.keyed f flight flown
  · intro call member f waiting
    obtain ⟨c, here⟩ := List.mem_iff_getElem?.mp member
    obtain ⟨flight, flown, keyed⟩ := linked.joined c call here f waiting
    exact ⟨flight, flown, own member flown keyed⟩
  · intro key token found
    obtain ⟨record, issued, same, flight, flown, keyed, -⟩ := linked.cached key token found
    obtain ⟨flight', flown', built⟩ := linked.recorded record issued
    obtain rfl := Option.some.inj (flown.symm.trans flown')
    exact ⟨flight, List.mem_of_getElem? flown, keyed, record, issued, same,
      buildIdPRequest_carries built⟩
  · intro call member u taken
    obtain rfl := Option.some.inj taken
    exact (Assoc.lookup_drop _ _ _).trans (if_pos rfl)

def keycloak : Client where
  grantType := .tokenExchange
  clientAuthMethod := .clientSecretBasic
  clientID := [109]
  clientSecret := [115]
  urlError := none

def production : OAuthAuthenticator where
  brokerAlias := [112, 114, 111, 100]
  target := [97, 112, 105]

def alice : ExchangeInput := production.input [97, 108, 105, 99, 101]

def bob : ExchangeInput := production.input [98, 111, 98]

def split : ExchangeInput × ExchangeInput :=
  (⟨[97, 0, 98], [99], [116]⟩, ⟨[97], [98, 0, 99], [116]⟩)

def digest (text : Bytes) : Bytes :=
  if text = preimage alice then
    [30, 19, 51, 135, 237, 136, 199, 105, 95, 56, 205, 64, 17, 187, 127, 169, 230, 83, 15, 12, 196,
      155, 34, 228, 128, 136, 234, 75, 7, 154, 234, 175]
  else if text = preimage bob then
    [74, 162, 244, 72, 87, 35, 33, 130, 47, 127, 248, 88, 168, 160, 75, 42, 78, 226, 76, 218, 114,
      112, 163, 92, 156, 41, 150, 122, 166, 247, 145, 189]
  else if text = preimage split.1 then
    [176, 189, 154, 190, 149, 73, 87, 179, 142, 253, 55, 117, 106, 23, 9, 152, 160, 234, 7, 44, 197,
      216, 173, 219, 78, 58, 79, 122, 151, 120, 31, 144]
  else []

theorem exchange_own_token_two_users : ∃ history t,
    Run (step digest keycloak 1000) State.init history t ∧
    (t.calls.map Call.input) = [alice, bob, alice] ∧
    ∃ call ∈ t.calls, call.input = alice ∧ call.phase = .returned (.ok ⟨"A", 500⟩) ∧
      ∃ record ∈ t.issued, record.token = ⟨"A", 500⟩ ∧ Carries keycloak record.request alice := by
  obtain ⟨t, done, inputs, found⟩ : ∃ t, exec (step digest keycloak 1000) State.init
      [.exchange alice, .exchange bob, .guard 0, .guard 1, .get 0 0, .get 1 0, .doChan 0, .doChan 1,
        .answer 0 (.ok ⟨"A", 500⟩), .put 0 1, .exchange alice, .guard 2, .get 2 2, .serve 2] =
      some t ∧ t.calls.map Call.input = [alice, bob, alice] ∧
      t.calls[2]? = some ⟨alice, none, .returned (.ok ⟨"A", 500⟩)⟩ := ⟨_, rfl, rfl, rfl⟩
  have collisionFree : CollisionFree digest t := collisionFree_of_inputs inputs (by decide)
  have clean : ∀ call ∈ t.calls, NulFree call.input := by
    intro call member
    have listed : call.input ∈ [alice, bob, alice] := inputs ▸ List.mem_map_of_mem member
    exact (show ∀ input ∈ [alice, bob, alice], NulFree input by decide) _ listed
  have member := List.mem_of_getElem? found
  have own := exchange_own_token digest keycloak 1000 _ t (run_of_exec done) collisionFree clean
  exact ⟨_, t, run_of_exec done, inputs, _, member, rfl, rfl, own.1 _ member _ rfl⟩

/-- With a separator in the fields, a call is handed the token of another subject. -/
theorem exchange_foreign_token : ∃ history t,
    Run (step digest keycloak 1000) State.init history t ∧ CollisionFree digest t ∧
    ∃ call ∈ t.calls, ∃ token, call.phase = .returned (.ok token) ∧
      ∀ record ∈ t.issued, ¬ Carries keycloak record.request call.input := by
  obtain ⟨t, done, inputs, found, record, issued, carried⟩ : ∃ t,
      exec (step digest keycloak 1000) State.init
        [.exchange split.1, .guard 0, .get 0 0, .doChan 0, .answer 0 (.ok ⟨"A", 500⟩), .put 0 1,
          .exchange split.2, .guard 1, .get 1 2, .serve 1] = some t ∧
      t.calls.map Call.input = [split.1, split.2] ∧
      t.calls[1]? = some ⟨split.2, none, .returned (.ok ⟨"A", 500⟩)⟩ ∧
      ∃ record, t.issued = [record] ∧
        record.request.form.lookup "subject_token" = some split.1.subjectToken :=
    ⟨_, rfl, rfl, rfl, _, rfl, rfl⟩
  refine ⟨_, t, run_of_exec done, collisionFree_of_inputs inputs (by decide), _,
    List.mem_of_getElem? found, _, rfl, ?_⟩
  rw [issued]
  intro other member carries
  obtain rfl := List.mem_singleton.mp member
  exact absurd (carried.symm.trans carries.1) (by decide)

end BrokerMcp.Proof.TokenExchange
