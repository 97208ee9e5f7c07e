import BrokerMcp.Proof.Sender.Gates

namespace BrokerMcp.Proof.Sender
open Resilience Transition Scheduler

def Settles (calls : List Call) : Gate → Prop
  | .unscheduled sem => Plain sem calls
  | .scheduled st => Coupled st calls

structure Tidy (s : Senders) : Prop where
  counted : ∀ c ∈ s.calls, Counted c
  settles : Settles s.calls s.gate

theorem Tidy.plain {s : Senders} (tidy : Tidy s) {sem : Semaphore}
    (gate : s.gate = .unscheduled sem) : Plain sem s.calls := by
  have settles := tidy.settles
  rw [gate] at settles
  exact settles

theorem Tidy.coupled {s : Senders} (tidy : Tidy s) {st : System}
    (gate : s.gate = .scheduled st) : Coupled st s.calls := by
  have settles := tidy.settles
  rw [gate] at settles
  exact settles

theorem start_tidy (fair enabled : Bool) (n limit maxQueueWait slowAdmissionAfter : Int) :
    Tidy (.start fair enabled n limit maxQueueWait slowAdmissionAfter) := by
  refine ⟨fun call member => ?_, ?_⟩
  · cases member
  cases fair with
  | false =>
      refine ⟨rfl, rfl, fun call member => ?_⟩
      cases member
  | true =>
      have positive : 1 ≤ (newSemaphore n).cap := by
        simp only [newSemaphore, defaultMaxConcurrentPerBroker]
        split_ifs <;> omega
      exact ⟨start_wound rfl positive enabled limit, rfl, .nil⟩

theorem charge_counted {calls : List Call} {st st' : System} {a : Action}
    (counted : ∀ c ∈ calls, Counted c) : ∀ c ∈ Senders.charge calls st a st', Counted c := by
  unfold Senders.charge
  cases st.granted a with
  | none => exact counted
  | some i =>
      intro c member
      obtain ⟨j, found⟩ := List.mem_iff_getElem?.mp member
      rw [List.getElem?_modify] at found
      obtain ⟨d, here, same⟩ := Option.map_eq_some_iff.mp found
      have before := counted d (List.mem_of_getElem? here)
      split_ifs at same
      · exact same ▸ ⟨before.invocations, before.releases⟩
      · exact same ▸ before

theorem Tidy.step {s s' : Senders} {a : Activity} (tidy : Tidy s) (step : s.step a = some s') :
    Tidy s' := by
  have fresh (phase : Phase) (slow : Bool) (unsent : gone phase = false) :
      ∀ c ∈ s.calls ++ [.new phase slow], Counted c := by
    intro c member
    rcases List.mem_append.mp member with old | new
    · exact tidy.counted c old
    · rw [List.mem_singleton.mp new]
      exact ⟨Nat.zero_le _, by simp [Call.new, unsent]⟩
  cases step_acts step with
  | called sem gate slow =>
      exact ⟨fresh _ slow rfl, (tidy.plain gate).call slow⟩
  | enqueued st st' gate key taken slow =>
      exact ⟨fresh _ slow rfl, (tidy.coupled gate).enqueue slow taken⟩
  | scheduled st st' gate a internal taken =>
      exact ⟨charge_counted tidy.counted, (tidy.coupled gate).dispatch internal taken⟩
  | reacted i c c' gate' known reacts =>
      refine ⟨?_, ?_⟩
      · intro d member
        rcases List.mem_or_eq_of_mem_set member with old | rfl
        · exact tidy.counted d old
        · exact reacts.counted (tidy.counted c (List.mem_of_getElem? known))
      · cases gate : s.gate with
        | unscheduled sem =>
            obtain ⟨sem', rfl, plain⟩ := (tidy.plain gate).react gate known reacts
            exact plain
        | scheduled st =>
            obtain ⟨st', rfl, coupled⟩ := (tidy.coupled gate).react gate known reacts
            exact coupled

theorem charge_stays {st st' : System} {calls : List Call} {a : Action} {i : Nat} {c : Call}
    (coupled : Coupled st calls) (internal : a.isInternal = true) (taken : st.step a = some st')
    (known : calls[i]? = some c) (ended : c.ended = true) :
    (Senders.charge calls st a st')[i]? = some c := by
  cases step_dispatched coupled.wound.ok internal taken with
  | drain silent | quiet silent => simpa only [Senders.charge, silent] using known
  | @grant j w hit here waiting =>
      simp only [Senders.charge, hit, List.getElem?_modify]
      by_cases same : j = i
      · subst same
        obtain ⟨v, there, agrees⟩ := paired_at coupled.paired known
        obtain rfl := Option.some.inj (here.symm.trans there)
        simp only [pending, Bool.and_eq_true, Bool.not_eq_true',
          Option.isNone_iff_eq_none] at waiting
        have fits := agrees.fits
        unfold Call.ended at ended
        split at ended
        · rename_i err phase
          simp [phase, Fits, waiting.1.2, waiting.2] at fits
        · rename_i how phase
          simp [phase, Fits, waiting.1.1] at fits
        · cases ended
      · simp [same, known]

theorem step_stays {s s' : Senders} {a : Activity} (tidy : Tidy s) (step : s.step a = some s')
    {i : Nat} {c : Call} (known : s.calls[i]? = some c) (ended : c.ended = true) :
    ∃ c', s'.calls[i]? = some c' ∧ Stays c c' := by
  have inside := (List.getElem?_eq_some_iff.mp known).1
  have old (d : Call) : (s.calls ++ [d])[i]? = some c := by
    rw [List.getElem?_append_left inside, known]
  cases step_acts step with
  | called | enqueued => exact ⟨c, old _, .refl c⟩
  | scheduled st st' gate a internal taken =>
      exact ⟨c, charge_stays (tidy.coupled gate) internal taken known ended, .refl c⟩
  | reacted j d d' gate here reacts =>
      by_cases own : j = i
      · subst own
        obtain rfl := Option.some.inj (here.symm.trans known)
        exact ⟨d', by simp [inside], reacts.stays ended⟩
      · exact ⟨c, by simp [own, known], .refl c⟩

theorem Stays.ended {c c' : Call} (stays : Stays c c') (ended : c.ended = true) :
    c'.ended = true := by
  rw [Call.ended, stays.phase]
  exact ended

theorem run_stays {s s' : Senders} {history : List (Senders × Activity)} (tidy : Tidy s)
    (run : Run Senders.step s history s') {i : Nat} {c : Call} (known : s.calls[i]? = some c)
    (ended : c.ended = true) : ∃ c', s'.calls[i]? = some c' ∧ Stays c c' := by
  induction run generalizing c with
  | nil => exact ⟨c, known, .refl c⟩
  | cons taken _ ih =>
      obtain ⟨d, here, first⟩ := step_stays tidy taken known ended
      obtain ⟨e, there, second⟩ := ih (tidy.step taken) here (first.ended ended)
      exact ⟨e, there, first.trans second⟩

theorem holding_eq {c : Call} {w : Waiter} (agrees : Agrees c w) (sound : Sound w) :
    (holding w).toNat = c.between.toNat + (c.unaware && holding w).toNat := by
  have fits := agrees.fits
  unfold Call.between Call.unaware
  cases phase : c.phase with
  | rateLimitGate | concurrencyGate =>
      rw [phase] at fits
      exact fits.elim
  | queued | abandoning => simp
  | shedding =>
      rw [phase] at fits
      have settled : w.resolved = true := fits
      simp [holding, settled]
  | refused =>
      rw [phase] at fits
      rcases fits with settled | stopped
      · simp [holding, settled]
      · simp [holding, sound.apart stopped]
  | admitted | sending | leaving =>
      rw [phase] at fits
      obtain ⟨granted, unsettled⟩ : w.granted = true ∧ w.resolved = false := fits
      simp [holding, granted, unsettled]
  | left =>
      rw [phase] at fits
      obtain ⟨granted, settled⟩ : w.granted = true ∧ w.resolved = true := fits
      simp [holding, settled]

theorem holders_eq {calls : List Call} {ws : List Waiter} (paired : List.Forall₂ Agrees calls ws)
    (sound : ∀ w ∈ ws, Sound w) : ws.countP holding =
      calls.countP Call.between + (calls.zip ws).countP fun p => p.1.unaware && holding p.2 := by
  induction paired with
  | nil => rfl
  | @cons c w calls ws agrees _ ih =>
      have here := holding_eq agrees (sound w (by simp))
      have rest := ih fun v member => sound v (by simp [member])
      rw [List.zip_cons_cons]
      simp only [Counting.countP_cons_toNat]
      omega

structure LeakFree (s : Senders) : Prop where
  one : ∀ c ∈ s.calls, c.gave ≤ c.took ∧ c.took ≤ 1 ∧ c.releases ≤ 1 ∧ c.invocations ≤ 1
  between : ∀ c ∈ s.calls, c.between = true → c.took = 1 ∧ c.gave = 0 ∧ c.releases = 0
  left : ∀ c ∈ s.calls, ∀ how, c.phase = .left how → c.took = 1 ∧ c.gave = 1 ∧ c.releases = 1
  refused : ∀ c ∈ s.calls, ∀ err, c.phase = .refused err →
    c.gave = c.took ∧ c.releases = 0 ∧ c.invocations = 0
  len : s.gate.sem.len = s.calls.countP Call.between + s.unobserved
  unblocked : s.gate.sem.wedged = false
  leaves : ∀ (i : Nat) (c : Call) (how : Exit), s.calls[i]? = some c → c.phase = .leaving how →
    (∀ st, s.gate = .scheduled st → st.unlocked = true) → (s.step (.event i .release)).isSome = true
  empty : (∀ c ∈ s.calls, c.ended = true) → s.gate.sem.len = 0 ∧ ∀ st, s.gate = .scheduled st →
    st.sched.subjects = ∅ ∧ st.sched.rotor.keys = [] ∧
      ∀ w ∈ st.sched.waiters, w.granted = true ∨ w.resolved = true ∨ w.err.isSome = true

structure Ledger (c : Call) : Prop where
  gave : c.gave ≤ c.took
  took : c.took ≤ 1
  between : c.between = true → c.took = 1 ∧ c.gave = 0
  left : ∀ how, c.phase = .left how → c.took = 1 ∧ c.gave = 1
  refused : ∀ err, c.phase = .refused err → c.gave = c.took

theorem Alone.ledger {c : Call} (alone : Alone c) : Ledger c := by
  obtain ⟨took, gave, -⟩ := alone
  refine ⟨?_, took ▸ Bool.toNat_le _, ?_, ?_, ?_⟩
  · rw [took, gave]
    cases c.between <;> cases gone c.phase <;> decide
  · intro between
    have here : gone c.phase = false := by
      unfold Call.between at between
      split at between <;> simp_all [gone]
    simp [took, gave, between, here]
  · intro how phase
    simp [took, gave, phase, gone]
  · intro err phase
    simp [took, gave, phase, gone, Call.between]

theorem Agrees.ledger {c : Call} {w : Waiter} (agrees : Agrees c w) (sound : Sound w) :
    Ledger c := by
  obtain ⟨took, gave, fits⟩ := agrees
  refine ⟨?_, took ▸ Bool.toNat_le _, ?_, ?_, ?_⟩
  · rw [took, gave]
    cases w.granted <;> cases w.resolved <;> decide
  · intro between
    obtain ⟨granted, unsettled⟩ : w.granted = true ∧ w.resolved = false := by
      unfold Call.between at between
      split at between
      · rename_i phase
        rwa [phase] at fits
      · rename_i phase
        rwa [phase] at fits
      · rename_i phase
        rwa [phase] at fits
      · cases between
    simp [took, gave, granted, unsettled]
  · intro how phase
    rw [phase] at fits
    obtain ⟨granted, settled⟩ : w.granted = true ∧ w.resolved = true := fits
    simp [took, gave, granted, settled]
  · intro err phase
    rw [phase] at fits
    rcases fits with settled | stopped
    · simp [took, gave, settled]
    · simp [took, gave, sound.apart stopped]

theorem Tidy.ledger {s : Senders} (tidy : Tidy s) : ∀ c ∈ s.calls, Ledger c := by
  intro c member
  cases gate : s.gate with
  | unscheduled sem => exact ((tidy.plain gate).alone c member).ledger
  | scheduled st =>
      have coupled := tidy.coupled gate
      obtain ⟨i, known⟩ := List.mem_iff_getElem?.mp member
      obtain ⟨w, found, agrees⟩ := paired_at coupled.paired known
      exact agrees.ledger (coupled.wound.sound w (List.mem_of_getElem? found))

theorem Tidy.len {s : Senders} (tidy : Tidy s) :
    s.gate.sem.len = s.calls.countP Call.between + s.unobserved := by
  unfold Senders.unobserved
  cases gate : s.gate with
  | unscheduled sem => exact (tidy.plain gate).len
  | scheduled st =>
      have coupled := tidy.coupled gate
      exact coupled.len.trans (holders_eq coupled.paired coupled.wound.sound)

theorem settled_of_ended {c : Call} {w : Waiter} (agrees : Agrees c w) (sound : Sound w)
    (ended : c.ended = true) : pending w = false ∧ holding w = false := by
  have fits := agrees.fits
  unfold Call.ended at ended
  split at ended
  · rename_i err phase
    rw [phase] at fits
    rcases fits with settled | stopped
    · simp [pending, holding, settled]
    · obtain ⟨reason, failed⟩ := Option.isSome_iff_exists.mp stopped
      simp [pending, holding, failed, sound.apart stopped]
  · rename_i how phase
    rw [phase] at fits
    obtain ⟨granted, settled⟩ : w.granted = true ∧ w.resolved = true := fits
    simp [pending, holding, settled]
  · cases ended

theorem Coupled.empty {st : System} {calls : List Call} (coupled : Coupled st calls)
    (ended : ∀ c ∈ calls, c.ended = true) :
    (∀ w ∈ st.sched.waiters, pending w = false) ∧
      st.sched.subjects = ∅ ∧ st.sched.rotor.keys = [] ∧ st.sched.sem.len = 0 := by
  have settled : ∀ w ∈ st.sched.waiters, pending w = false ∧ holding w = false := by
    intro w member
    obtain ⟨i, found⟩ := List.mem_iff_getElem?.mp member
    obtain ⟨c, known, agrees⟩ := paired_at coupled.paired.flip found
    exact settled_of_ended agrees (coupled.wound.sound w member)
      (ended c (List.mem_of_getElem? known))
  exact ⟨fun w member => (settled w member).1, empty_of_settled coupled.wound.ok
    (fun w member => (settled w member).1) (fun w member => (settled w member).2)⟩

theorem Tidy.leaves {s : Senders} (tidy : Tidy s) {i : Nat} {c : Call} {how : Exit}
    (known : s.calls[i]? = some c) (phase : c.phase = .leaving how)
    (unlocked : ∀ st, s.gate = .scheduled st → st.unlocked = true) :
    (s.step (.event i .release)).isSome = true := by
  cases gate : s.gate with
  | unscheduled sem =>
      have occupied : 0 < sem.len := by
        rw [(tidy.plain gate).len, List.countP_pos_iff]
        exact ⟨c, List.mem_of_getElem? known, by simp [Call.between, phase]⟩
      simp [Senders.step, Senders.react, known, phase, gate, occupied]
  | scheduled st =>
      obtain ⟨w, found, -⟩ := paired_at (tidy.coupled gate).paired known
      simp [Senders.step, Senders.react, System.step, known, phase, gate, found, unlocked st gate]

theorem Tidy.leakFree {s : Senders} (tidy : Tidy s) : LeakFree s where
  one c member :=
    have ledger := tidy.ledger c member
    have counted := tidy.counted c member
    ⟨ledger.gave, ledger.took, counted.releases ▸ Bool.toNat_le _,
      counted.invocations.trans (Bool.toNat_le _)⟩
  between c member between := by
    obtain ⟨took, gave⟩ := (tidy.ledger c member).between between
    refine ⟨took, gave, (tidy.counted c member).releases.trans ?_⟩
    unfold Call.between at between
    split at between <;> simp_all [gone]
  left c member how phase := by
    obtain ⟨took, gave⟩ := (tidy.ledger c member).left how phase
    exact ⟨took, gave, by rw [(tidy.counted c member).releases, phase]; rfl⟩
  refused c member err phase := by
    have counted := tidy.counted c member
    have invocations := counted.invocations
    rw [phase] at invocations
    refine ⟨(tidy.ledger c member).refused err phase, ?_, Nat.le_zero.mp invocations⟩
    rw [counted.releases, phase]
    rfl
  len := tidy.len
  unblocked := by
    cases gate : s.gate with
    | unscheduled sem => exact (tidy.plain gate).free
    | scheduled st => exact (tidy.coupled gate).wound.ok.slots.free
  leaves _ _ _ := tidy.leaves
  empty ended := by
    cases gate : s.gate with
    | unscheduled sem =>
        refine ⟨(tidy.plain gate).len.trans ?_, ?_⟩
        · rw [List.countP_eq_zero]
          intro c member between
          have done := ended c member
          unfold Call.ended at done
          split at done <;> simp_all [Call.between]
        · intro st same
          cases same
    | scheduled st =>
        obtain ⟨settled, subjects, rotor, len⟩ := (tidy.coupled gate).empty ended
        refine ⟨len, ?_⟩
        intro st' same
        cases same
        refine ⟨subjects, rotor, ?_⟩
        intro w member
        have done := settled w member
        cases granted : w.granted with
        | true => exact .inl rfl
        | false =>
            cases resolved : w.resolved with
            | true => exact .inr (.inl rfl)
            | false =>
                simp only [pending, granted, resolved] at done
                exact .inr (.inr (by simpa using done))

theorem admission_leaks_no_slot (fair enabled : Bool)
    (n limit maxQueueWait slowAdmissionAfter : Int) {history : List (Senders × Activity)}
    {s : Senders} (run : Run Senders.step
      (.start fair enabled n limit maxQueueWait slowAdmissionAfter) history s) :
    LeakFree s ∧ ∀ later s', Run Senders.step s later s' → ∀ (i : Nat) (c : Call),
      s.calls[i]? = some c → c.ended = true → ∃ c', s'.calls[i]? = some c' ∧ Stays c c' := by
  have start := start_tidy fair enabled n limit maxQueueWait slowAdmissionAfter
  have tidy : Tidy s := (run.invariant start fun _ _ _ => Tidy.step).1
  refine ⟨tidy.leakFree, ?_⟩
  intro later s' rest i c known ended
  exact run_stays tidy rest known ended

-- The first call is granted a slot while it gives up, the second panics in the retry client, the
-- third is stopped by the drain.
theorem admission_leaks_no_slot_of_three : ∃ history s,
    Run Senders.step (.start true true 1 1 5 0) history s ∧
    s.calls.map Call.phase = [.refused (.context .canceled), .left .panicked,
      .refused (.brokerBusy .concurrency 5)] ∧
    s.calls.map Call.took = [1, 1, 0] ∧ LeakFree s := by
  obtain ⟨s, done, phases, took⟩ : ∃ s, exec Senders.step (.start true true 1 1 5 0)
      [.call ⟨"a", "x"⟩, .event 0 (.contextEnds .canceled), .event 0 .done, .schedule .tick,
        .schedule .pass, .event 0 .abandon, .call ⟨"b", "x"⟩, .call ⟨"a", "x"⟩, .schedule .signal,
        .schedule .tick, .schedule .pass, .event 1 .ready, .event 1 .invoke, .event 1 .panics,
        .schedule .stop, .schedule .seeStopped, .schedule (.drain [("b", ["x"]), ("a", ["x"])]),
        .event 2 .ready, .event 1 .release] = some s ∧
      s.calls.map Call.phase = [.refused (.context .canceled), .left .panicked,
        .refused (.brokerBusy .concurrency 5)] ∧
      s.calls.map Call.took = [1, 1, 0] := ⟨_, rfl, rfl, rfl⟩
  have run := run_of_exec done
  exact ⟨_, s, run, phases, took, (admission_leaks_no_slot true true 1 1 5 0 run).1⟩

end BrokerMcp.Proof.Sender
