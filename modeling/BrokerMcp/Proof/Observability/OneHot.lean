import BrokerMcp.Observability.Reachability

namespace BrokerMcp.Proof.Observability
open BrokerMcp.Observability.Health

theorem toString_injective {m n : Nat} (same : toString m = toString n) : m = n := by
  have digits : Nat.toDigits 10 m = Nat.toDigits 10 n := by
    rw [← Nat.toList_repr, ← Nat.toList_repr]
    exact congrArg String.toList same
  calc m = Nat.ofDigitChars 10 (Nat.toDigits 10 m) 0 :=
        (Nat.ofDigitChars_toDigits (by decide) le_rfl).symm
    _ = Nat.ofDigitChars 10 (Nat.toDigits 10 n) 0 := by rw [digits]
    _ = n := Nat.ofDigitChars_toDigits (by decide) le_rfl

theorem text_brokerError {r : BrokerState} {httpStatus : Nat}
    (same : r.text = "broker_error_" ++ toString httpStatus) : r = .brokerError httpStatus := by
  have chars := congrArg String.toList same
  rw [String.toList_append] at chars
  cases r with
  | reachable | unreachable | credentialInvalid => simp [BrokerState.text] at chars
  | brokerError other =>
      rw [BrokerState.text, String.toList_append] at chars
      have digits := List.append_cancel_left chars
      rw [toString_injective (String.toList_injective digits)]

theorem text_injective {r r' : BrokerState} (same : r.text = r'.text) : r = r' := by
  cases r' with
  | brokerError httpStatus => exact text_brokerError same
  | reachable | unreachable | credentialInvalid =>
      cases r with
      | brokerError httpStatus => exact (text_brokerError same.symm).symm
      | reachable | unreachable | credentialInvalid => simp [BrokerState.text] at same ⊢

def heardOf (broker : String) (events : List Event) : List (Nat × Int) :=
  events.filterMap fun e => if e.broker = broker then e.call.signal.map (·, e.now) else none

structure Entered (heard : List (Nat × Int)) (e : BrokerEntry) : Prop where
  last : ∃ result, heard.getLast? = some result ∧ e.current = classify result.1 ∧
    e.lastResult = result.2
  seen : ∀ r, r ∈ e.seenReasons ↔ r ≠ .reachable ∧ ∃ result ∈ heard, classify result.1 = r
  once : e.seenReasons.Nodup

structure Tells (heard : String → List (Nat × Int)) (t : Tracker) : Prop where
  distinct : (t.map Prod.fst).Nodup
  absent : ∀ broker, t.lookup broker = none → heard broker = []
  entered : ∀ broker e, t.lookup broker = some e → Entered (heard broker) e

theorem mem_addReason {r state : BrokerState} {seen : List BrokerState} :
    r ∈ addReason state seen ↔ r = state ∨ r ∈ seen := by
  unfold addReason
  split_ifs with old
  · constructor
    · exact .inr
    · rintro (rfl | member)
      · exact old
      · exact member
  · simp [or_comm]

theorem nodup_addReason {state : BrokerState} {seen : List BrokerState} (once : seen.Nodup) :
    (addReason state seen).Nodup := by
  unfold addReason
  split_ifs with old
  · exact once
  · rw [List.nodup_append]
    refine ⟨once, List.nodup_singleton state, ?_⟩
    rintro a member b found rfl
    exact old (List.mem_singleton.mp found ▸ member)

theorem Tells.seen {heard : String → List (Nat × Int)} {t : Tracker} (tells : Tells heard t)
    (broker : String) : ∀ seen, seen = (t.lookup broker).elim [] BrokerEntry.seenReasons →
      seen.Nodup ∧ ∀ r, r ∈ seen ↔ r ≠ .reachable ∧ ∃ result ∈ heard broker, classify result.1 = r := by
  rintro seen rfl
  cases found : t.lookup broker with
  | none => simp [tells.absent broker found]
  | some e => exact ⟨(tells.entered broker e found).once, (tells.entered broker e found).seen⟩

theorem entered_snoc {heard : List (Nat × Int)} {seen : List BrokerState} (once : seen.Nodup)
    (known : ∀ r, r ∈ seen ↔ r ≠ .reachable ∧ ∃ result ∈ heard, classify result.1 = r)
    (httpStatus : Nat) (now : Int) : Entered (heard ++ [(httpStatus, now)])
      ⟨classify httpStatus,
        if classify httpStatus ≠ .reachable then addReason (classify httpStatus) seen else seen,
        now⟩ := by
  have later : ∀ r, (∃ result ∈ heard ++ [(httpStatus, now)], classify result.1 = r) ↔
      (∃ result ∈ heard, classify result.1 = r) ∨ r = classify httpStatus := by
    intro r
    simp only [List.mem_append, List.mem_singleton, or_and_right, exists_or, exists_eq_left]
    exact or_congr_right eq_comm
  have last : ∃ result, (heard ++ [(httpStatus, now)]).getLast? = some result ∧
      classify httpStatus = classify result.1 ∧ now = result.2 := ⟨_, List.getLast?_concat, rfl, rfl⟩
  by_cases up : classify httpStatus = .reachable
  · rw [if_neg (not_not.mpr up)]
    refine ⟨last, ?_, once⟩
    intro r
    rw [known, later]
    constructor
    · rintro ⟨reason, found⟩
      exact ⟨reason, .inl found⟩
    · rintro ⟨reason, found | rfl⟩
      · exact ⟨reason, found⟩
      · exact absurd up reason
  · rw [if_pos up]
    refine ⟨last, ?_, nodup_addReason once⟩
    intro r
    rw [mem_addReason, known, later]
    constructor
    · rintro (rfl | ⟨reason, found⟩)
      · exact ⟨up, .inr rfl⟩
      · exact ⟨reason, .inl found⟩
    · rintro ⟨reason, found | rfl⟩
      · exact .inr ⟨reason, found⟩
      · exact .inl rfl

theorem Tells.record {heard : String → List (Nat × Int)} {t : Tracker} (tells : Tells heard t)
    (broker : String) (httpStatus : Nat) (now : Int) :
    Tells (fun b => if b = broker then heard b ++ [(httpStatus, now)] else heard b)
      (recordBrokerResult broker httpStatus now t) := by
  refine ⟨Assoc.nodup_put _ _ tells.distinct, ?_, ?_⟩
  · intro b missing
    rw [recordBrokerResult, Assoc.lookup_put] at missing
    split_ifs at missing with same
    rw [if_neg same]
    exact tells.absent b missing
  · intro b e found
    rw [recordBrokerResult, Assoc.lookup_put] at found
    by_cases same : b = broker
    · subst same
      obtain rfl := Option.some.inj ((if_pos rfl).symm.trans found)
      obtain ⟨once, seen⟩ := tells.seen b _ rfl
      rw [if_pos rfl]
      exact entered_snoc once seen httpStatus now
    · rw [if_neg same] at found ⊢
      exact tells.entered b e found

theorem heardOf_snoc (broker : String) (events : List Event) (e : Event) :
    heardOf broker (events ++ [e]) = heardOf broker events ++
      (if e.broker = broker then (e.call.signal.map (·, e.now)).toList else []) := by
  rw [heardOf, List.filterMap_append]
  congr 1
  by_cases here : e.broker = broker
  · cases signal : e.call.signal <;> simp [here, signal]
  · simp [here]

theorem run_tells (events : List Event) : Tells (heardOf · events) (Tracker.run events) := by
  induction events using List.reverseRecOn with
  | nil =>
      refine ⟨List.nodup_nil, ?_, ?_⟩
      · intro _ _
        rfl
      · rintro broker e ⟨⟩
  | append_singleton events e ih =>
      rw [Tracker.run, List.foldl_append, List.foldl_cons, List.foldl_nil, Tracker.step]
      cases signal : e.call.signal with
      | none =>
          have same : (heardOf · (events ++ [e])) = (heardOf · events) := by
            funext broker
            simp [heardOf_snoc, signal]
          rw [same]
          exact ih
      | some httpStatus =>
          have more : (heardOf · (events ++ [e])) = fun b =>
              if b = e.broker then heardOf b events ++ [(httpStatus, e.now)]
              else heardOf b events := by
            funext broker
            by_cases here : e.broker = broker
            · simp [heardOf_snoc, signal, here]
            · simp [heardOf_snoc, here, Ne.symm here]
          rw [more]
          exact ih.record e.broker httpStatus e.now

def Observed (broker : String) (e : BrokerEntry) (o : Series × Int) : Prop :=
  o = (.reachable broker, if e.current = .reachable then 1 else 0) ∨
  (∃ r ∈ e.seenReasons, o = (.unreachableReason broker r.text, if r = e.current then 1 else 0)) ∨
  (e.lastResult ≠ zeroTime ∧ o = (.lastResultTimestamp broker, e.lastResult))

theorem mem_observe {broker : String} {e : BrokerEntry} {o : Series × Int} :
    o ∈ observe broker e.snapshot ↔ Observed broker e o := by
  have dated : o ∈ (if e.lastResult ≠ zeroTime then
      [(Series.lastResultTimestamp broker, e.lastResult)] else []) ↔
        e.lastResult ≠ zeroTime ∧ o = (.lastResultTimestamp broker, e.lastResult) := by
    split_ifs with known <;> simp [known]
  have named : o ∈ (e.snapshot.seenReasons.map fun r =>
      (Series.unreachableReason broker r.text, if r = e.current then (1 : Int) else 0)) ↔
        ∃ r ∈ e.seenReasons,
          o = (.unreachableReason broker r.text, if r = e.current then 1 else 0) := by
    simp only [BrokerEntry.snapshot, List.mem_map, List.mem_mergeSort]
    refine exists_congr ?_
    intro r
    rw [eq_comm (b := o)]
  rw [observe, List.mem_append, List.mem_cons, or_assoc, Observed, ← dated, ← named]
  rfl

theorem scrape_eq (t : Tracker) : scrape t = t.flatMap fun e => observe e.1 e.2.snapshot := by
  simp only [scrape, observeAll, snapshotForMetrics, List.flatMap_map]

theorem mem_scrape {t : Tracker} (distinct : (t.map Prod.fst).Nodup) {o : Series × Int} :
    o ∈ scrape t ↔ ∃ broker e, t.lookup broker = some e ∧ Observed broker e o := by
  simp only [scrape_eq, List.mem_flatMap, mem_observe, Prod.exists,
    Assoc.lookup_eq_some_iff distinct]

def Series.broker : Series → String
  | .reachable broker => broker
  | .unreachableReason broker _ => broker
  | .lastResultTimestamp broker => broker

theorem Observed.broker {broker : String} {e : BrokerEntry} {o : Series × Int}
    (observed : Observed broker e o) : Series.broker o.1 = broker := by
  rcases observed with rfl | ⟨r, -, rfl⟩ | ⟨-, rfl⟩ <;> rfl

theorem observe_once (broker : String) {e : BrokerEntry} (once : e.seenReasons.Nodup) :
    ((observe broker e.snapshot).map Prod.fst).Nodup := by
  have sorted : (e.seenReasons.mergeSort fun r r' => r.text ≤ r'.text).Nodup :=
    (List.mergeSort_perm _ _).nodup_iff.mpr once
  have labels : ((e.seenReasons.mergeSort fun r r' => r.text ≤ r'.text).map fun r =>
      Series.unreachableReason broker r.text).Nodup := by
    refine sorted.map ?_
    intro r r' same
    simp only [Series.unreachableReason.injEq, true_and] at same
    exact text_injective same
  by_cases dated : e.lastResult = zeroTime
  · simpa [observe, BrokerEntry.snapshot, dated, Function.comp_def] using labels
  · have apart := labels.append (List.nodup_singleton (Series.lastResultTimestamp broker)) (by simp)
    simpa [observe, BrokerEntry.snapshot, dated, Function.comp_def] using apart

theorem scrape_once {t : Tracker} (distinct : (t.map Prod.fst).Nodup)
    (reasons : ∀ broker e, t.lookup broker = some e → e.seenReasons.Nodup) :
    ((scrape t).map Prod.fst).Nodup := by
  rw [scrape_eq, List.map_flatMap, List.nodup_flatMap]
  constructor
  · intro e member
    exact observe_once e.1 (reasons e.1 e.2 ((Assoc.lookup_eq_some_iff distinct).mpr member))
  · refine (List.pairwise_map.mp distinct).imp ?_
    intro e e' apart series one other
    obtain ⟨o, member, rfl⟩ := List.mem_map.mp one
    obtain ⟨o', member', same⟩ := List.mem_map.mp other
    have broker := (mem_observe.mp member).broker
    rw [← same, (mem_observe.mp member').broker] at broker
    exact apart broker.symm

def Verdict (broker : String) : Series → Prop
  | .reachable b => b = broker
  | .unreachableReason b _ => b = broker
  | .lastResultTimestamp _ => False

structure OneHot (heard : String → List (Nat × Int)) (observations : List (Series × Int)) :
    Prop where
  once : (observations.map Prod.fst).Nodup
  reachable : ∀ broker value, (.reachable broker, value) ∈ observations ↔
    ∃ last, (heard broker).getLast? = some last ∧
      value = if classify last.1 = .reachable then 1 else 0
  reason : ∀ broker label value, (.unreachableReason broker label, value) ∈ observations ↔
    ∃ last, (heard broker).getLast? = some last ∧
      (∃ result ∈ heard broker, classify result.1 ≠ .reachable ∧ (classify result.1).text = label) ∧
      value = if (classify last.1).text = label then 1 else 0
  hot : ∀ broker, heard broker ≠ [] →
    ∃! series, Verdict broker series ∧ (series, 1) ∈ observations

section Reading

variable {heard : String → List (Nat × Int)} {t : Tracker}

theorem Tells.current (tells : Tells heard t) {broker : String} {last : Nat × Int} :
    (heard broker).getLast? = some last ↔ ∃ e, t.lookup broker = some e ∧
      e.current = classify last.1 ∧ (heard broker).getLast? = some last := by
  constructor
  · intro there
    cases found : t.lookup broker with
    | none => simp [tells.absent broker found] at there
    | some e =>
        obtain ⟨last', there', current, -⟩ := (tells.entered broker e found).last
        obtain rfl := Option.some.inj (there.symm.trans there')
        exact ⟨e, rfl, current, there⟩
  · rintro ⟨e, -, -, there⟩
    exact there

theorem Tells.reachable (tells : Tells heard t) (broker : String) (value : Int) :
    (.reachable broker, value) ∈ scrape t ↔ ∃ last, (heard broker).getLast? = some last ∧
      value = if classify last.1 = .reachable then 1 else 0 := by
  rw [mem_scrape tells.distinct]
  constructor
  · rintro ⟨b, e, found, same | ⟨r, -, same⟩ | ⟨-, same⟩⟩
    · simp only [Prod.mk.injEq, Series.reachable.injEq] at same
      obtain ⟨rfl, rfl⟩ := same
      obtain ⟨last, there, current, -⟩ := (tells.entered broker e found).last
      exact ⟨last, there, by rw [current]⟩
    · simp at same
    · simp at same
  · rintro ⟨last, there, rfl⟩
    obtain ⟨e, found, current, -⟩ := tells.current.mp there
    exact ⟨broker, e, found, .inl (by rw [current])⟩

theorem Tells.reason (tells : Tells heard t) (broker label : String) (value : Int) :
    (.unreachableReason broker label, value) ∈ scrape t ↔
      ∃ last, (heard broker).getLast? = some last ∧
        (∃ result ∈ heard broker, classify result.1 ≠ .reachable ∧
          (classify result.1).text = label) ∧
        value = if (classify last.1).text = label then 1 else 0 := by
  have compared : ∀ r r' : BrokerState,
      (if r = r' then 1 else 0 : Int) = if r'.text = r.text then 1 else 0 := by
    intro r r'
    refine if_congr ⟨?_, ?_⟩ rfl rfl
    · rintro rfl
      rfl
    · intro same
      exact (text_injective same).symm
  rw [mem_scrape tells.distinct]
  constructor
  · rintro ⟨b, e, found, same | ⟨r, seen, same⟩ | ⟨-, same⟩⟩
    · simp at same
    · simp only [Prod.mk.injEq, Series.unreachableReason.injEq] at same
      obtain ⟨⟨rfl, rfl⟩, rfl⟩ := same
      obtain ⟨last, there, current, -⟩ := (tells.entered broker e found).last
      obtain ⟨down, result, member, rfl⟩ := ((tells.entered broker e found).seen r).mp seen
      exact ⟨last, there, ⟨result, member, down, rfl⟩, by rw [current, compared]⟩
    · simp at same
  · rintro ⟨last, there, ⟨result, member, down, rfl⟩, rfl⟩
    obtain ⟨e, found, current, -⟩ := tells.current.mp there
    have seen := ((tells.entered broker e found).seen _).mpr ⟨down, result, member, rfl⟩
    exact ⟨broker, e, found, .inr (.inl ⟨_, seen, by rw [current, compared]⟩)⟩

theorem Tells.hot (tells : Tells heard t) {broker : String} (spoken : heard broker ≠ []) :
    ∃! series, Verdict broker series ∧ (series, 1) ∈ scrape t := by
  obtain ⟨last, there⟩ := Option.ne_none_iff_exists'.mp (mt List.getLast?_eq_none_iff.mp spoken)
  have only : ∀ value : Int, (∃ last', (heard broker).getLast? = some last' ∧
      value = if classify last'.1 = .reachable then 1 else 0) →
        value = if classify last.1 = .reachable then 1 else 0 := by
    rintro value ⟨last', there', rfl⟩
    rw [Option.some.inj (there.symm.trans there')]
  by_cases up : classify last.1 = .reachable
  · refine ⟨.reachable broker, ⟨rfl, ?_⟩, ?_⟩
    · exact (tells.reachable broker 1).mpr ⟨last, there, by rw [if_pos up]⟩
    · rintro (b | ⟨b, label⟩ | b) ⟨about, member⟩
      · exact congrArg Series.reachable about
      · obtain rfl : b = broker := about
        obtain ⟨last', there', ⟨result, -, down, rfl⟩, value⟩ := (tells.reason b label 1).mp member
        obtain rfl := Option.some.inj (there.symm.trans there')
        have same : (classify last.1).text = (classify result.1).text := by
          by_contra other
          simp [other] at value
        exact absurd ((text_injective same).symm.trans up) down
      · exact about.elim
  · refine ⟨.unreachableReason broker (classify last.1).text, ⟨rfl, ?_⟩, ?_⟩
    · refine (tells.reason broker _ 1).mpr ⟨last, there, ⟨last, ?_, up, rfl⟩, by rw [if_pos rfl]⟩
      exact List.mem_of_getLast? there
    · rintro (b | ⟨b, label⟩ | b) ⟨about, member⟩
      · obtain rfl : b = broker := about
        have value := only 1 ((tells.reachable b 1).mp member)
        simp [up] at value
      · obtain rfl : b = broker := about
        obtain ⟨last', there', -, value⟩ := (tells.reason b label 1).mp member
        obtain rfl := Option.some.inj (there.symm.trans there')
        have same : (classify last.1).text = label := by
          by_contra other
          simp [other] at value
        rw [same]
      · exact about.elim

theorem Tells.one_hot (tells : Tells heard t) : OneHot heard (scrape t) where
  once := scrape_once tells.distinct fun broker e found => (tells.entered broker e found).once
  reachable := tells.reachable
  reason := tells.reason
  hot _ := tells.hot

end Reading

def Kept (before after : List (Series × Int)) : Prop :=
  ∀ broker series, Verdict broker series → series ∈ before.map Prod.fst → series ∈ after.map Prod.fst

theorem gauges_one_hot (events more : List Event) :
    OneHot (heardOf · events) (scrape (Tracker.run events)) ∧
      Kept (scrape (Tracker.run events)) (scrape (Tracker.run (events ++ more))) := by
  have now := run_tells events
  have later := run_tells (events ++ more)
  refine ⟨now.one_hot, ?_⟩
  intro broker series about exported
  have longer : heardOf broker (events ++ more) = heardOf broker events ++ heardOf broker more :=
    List.filterMap_append
  have spoken : heardOf broker events ≠ [] →
      ∃ last, (heardOf broker (events ++ more)).getLast? = some last := by
    intro heard
    refine Option.ne_none_iff_exists'.mp (mt List.getLast?_eq_none_iff.mp ?_)
    rw [longer]
    exact List.append_ne_nil_of_left_ne_nil heard _
  obtain ⟨⟨series, value⟩, member, rfl⟩ := List.mem_map.mp exported
  cases series with
  | reachable b =>
      obtain rfl : b = broker := about
      obtain ⟨last, there, -⟩ := (now.reachable b value).mp member
      obtain ⟨last', there'⟩ := spoken (List.ne_nil_of_mem (List.mem_of_getLast? there))
      exact List.mem_map.mpr ⟨_, (later.reachable b _).mpr ⟨last', there', rfl⟩, rfl⟩
  | unreachableReason b label =>
      obtain rfl : b = broker := about
      obtain ⟨last, there, ⟨result, among, down, text⟩, -⟩ := (now.reason b label value).mp member
      obtain ⟨last', there'⟩ := spoken (List.ne_nil_of_mem (List.mem_of_getLast? there))
      have still : result ∈ heardOf b (events ++ more) := by
        rw [longer]
        exact List.mem_append_left _ among
      exact List.mem_map.mpr
        ⟨_, (later.reason b label _).mpr ⟨last', there', ⟨result, still, down, text⟩, rfl⟩, rfl⟩
  | lastResultTimestamp b => exact about.elim

end BrokerMcp.Proof.Observability
