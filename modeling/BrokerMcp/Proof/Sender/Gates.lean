import BrokerMcp.Proof.Scheduler.Occupancy
import BrokerMcp.Proof.Sender.Calls

namespace BrokerMcp.Proof.Sender
open Resilience Transition Scheduler

structure Alone (c : Call) : Prop where
  took : c.took = (c.between || gone c.phase).toNat
  gave : c.gave = (gone c.phase).toNat
  unqueued : c.unaware = false

structure Plain (sem : Semaphore) (calls : List Call) : Prop where
  free : sem.wedged = false
  len : sem.len = calls.countP Call.between
  alone : ∀ c ∈ calls, Alone c

theorem Plain.set {sem sem' : Semaphore} {calls : List Call} {i : Nat} {c c' : Call}
    (plain : Plain sem calls) (known : calls[i]? = some c) (free : sem'.wedged = false)
    (len : sem'.len + c.between.toNat = sem.len + c'.between.toNat) (alone : Alone c') :
    Plain sem' (calls.set i c') := by
  refine ⟨free, ?_, ?_⟩
  · have change := Counting.countP_modify known (fun _ => c') Call.between
    rw [List.set_eq_modify]
    have before := plain.len
    omega
  · intro d member
    rcases List.mem_or_eq_of_mem_set member with old | rfl
    · exact plain.alone d old
    · exact alone

theorem Plain.react {s : Senders} {sem : Semaphore} {i : Nat} {c c' : Call} {gate : Gate}
    (plain : Plain sem s.calls) (unscheduled : s.gate = .unscheduled sem)
    (known : s.calls[i]? = some c) (reacts : Reacts s i c gate c') :
    ∃ sem', gate = .unscheduled sem' ∧ Plain sem' (s.calls.set i c') := by
  obtain ⟨took, gave, unqueued⟩ := plain.alone c (List.mem_of_getElem? known)
  have stay (same : gate = s.gate) (len : c.between = c'.between) (alone : Alone c') :
      ∃ sem', gate = .unscheduled sem' ∧ Plain sem' (s.calls.set i c') :=
    ⟨sem, same.trans unscheduled, plain.set known plain.free (by rw [len]) alone⟩
  cases reacts with
  | contextEnds | warned => exact stay rfl rfl ⟨took, gave, unqueued⟩
  | observed _ fair | stopped _ fair | abandoned _ _ fair | released _ _ fair =>
      rw [unscheduled] at fair
      cases fair
  | givesUp phase => simp [Call.unaware, phase] at unqueued
  | acquired sem' plain' phase room =>
      rw [unscheduled] at plain'
      cases plain'
      refine ⟨_, rfl, ?_⟩
      have sent : sem.send = { sem with len := sem.len + 1 } := if_pos room
      simp only [Call.between, gone, phase] at took gave
      refine plain.set known ?_ ?_ ⟨?_, ?_, rfl⟩
      · simp [sent, plain.free]
      · simp [Call.between, phase, sent]
      · simp [Call.between, took, sent]
      · simp [gone, gave]
  | received sem' plain' how phase occupied =>
      rw [unscheduled] at plain'
      cases plain'
      refine ⟨_, rfl, ?_⟩
      have received : sem.receive = { sem with len := sem.len - 1 } := if_pos occupied
      simp only [Call.between, gone, phase] at took gave
      refine plain.set known ?_ ?_ ⟨?_, ?_, rfl⟩
      · simp [received, plain.free]
      · simp only [Call.between, phase, received, Bool.toNat_true, Bool.toNat_false]
        omega
      · simp [gone, took]
      · simp only [gone, gave, received, Bool.toNat_false, Bool.toNat_true]
        omega
  | cutOff phase | timedOut phase =>
      rcases phase with phase | phase <;>
      · simp only [Call.between, gone, phase] at took gave
        exact stay rfl (by simp [Call.between, phase]) ⟨took, gave, rfl⟩
  | permitted phase | shed _ phase | wrappingFails phase | invoked phase | finished phase =>
      simp only [Call.between, gone, phase] at took gave
      exact stay rfl (by simp [Call.between, phase]) ⟨took, gave, rfl⟩

theorem Plain.call {sem : Semaphore} {calls : List Call} (plain : Plain sem calls) (slow : Bool) :
    Plain sem (calls ++ [.new .rateLimitGate slow]) := by
  have outside : (Call.new .rateLimitGate slow).between = false := rfl
  refine ⟨plain.free, by simp [List.countP_append, plain.len, outside], ?_⟩
  intro c member
  rcases List.mem_append.mp member with old | new
  · exact plain.alone c old
  · rw [List.mem_singleton.mp new]
    exact ⟨rfl, rfl, rfl⟩

def Fits (w : Waiter) : Phase → Prop
  | .rateLimitGate | .concurrencyGate => False
  | .queued | .abandoning _ => w.resolved = false
  | .shedding _ => w.resolved = true
  | .refused _ => w.resolved = true ∨ w.err.isSome = true
  | .admitted | .sending | .leaving _ => w.granted = true ∧ w.resolved = false
  | .left _ => w.granted = true ∧ w.resolved = true

structure Agrees (c : Call) (w : Waiter) : Prop where
  took : c.took = w.granted.toNat
  gave : c.gave = (w.granted && w.resolved).toNat
  fits : Fits w c.phase

structure Coupled (st : System) (calls : List Call) : Prop where
  wound : Wound st
  len : st.sched.sem.len = st.sched.waiters.countP holding
  paired : List.Forall₂ Agrees calls st.sched.waiters

section Pairs

variable {α β : Type} {R : α → β → Prop} {xs : List α} {ys : List β} {i : Nat}

theorem paired_at (paired : List.Forall₂ R xs ys) {x : α} (found : xs[i]? = some x) :
    ∃ y, ys[i]? = some y ∧ R x y := by
  obtain ⟨inside, rfl⟩ := List.getElem?_eq_some_iff.mp found
  have inside' : i < ys.length := paired.length_eq ▸ inside
  exact ⟨ys[i], List.getElem?_eq_getElem inside', paired.get inside inside'⟩

theorem paired_modify (paired : List.Forall₂ R xs ys) {f : α → α} {g : β → β}
    (kept : ∀ x y, xs[i]? = some x → ys[i]? = some y → R x y → R (f x) (g y)) :
    List.Forall₂ R (xs.modify i f) (ys.modify i g) := by
  induction paired generalizing i with
  | nil => simp
  | cons related rest ih =>
      cases i with
      | zero => exact .cons (kept _ _ rfl rfl related) rest
      | succ i => exact .cons related (ih fun x y here there => kept x y (by simpa) (by simpa))

end Pairs

theorem Coupled.set {st st' : System} {calls : List Call} {i : Nat} {c' : Call} {w : Waiter}
    {f : Waiter → Waiter} (coupled : Coupled st calls) (waiter : st.sched.waiters[i]? = some w)
    (wound : Wound st')
    (waiters : st'.sched.waiters = st.sched.waiters.modify i f)
    (len : st'.sched.sem.len + (holding w).toNat = st.sched.sem.len + (holding (f w)).toNat)
    (agrees : Agrees c' (f w)) : Coupled st' (calls.set i c') := by
  refine ⟨wound, ?_, ?_⟩
  · have change := Counting.countP_modify waiter f holding
    have before := coupled.len
    rw [waiters]
    omega
  · rw [waiters, List.set_eq_modify]
    apply paired_modify coupled.paired
    intro x y _ here _
    obtain rfl := Option.some.inj (waiter.symm.trans here)
    exact agrees

theorem abandon_step {st st' : System} {w : Nat} {waiter : Waiter}
    (known : st.sched.waiters[w]? = some waiter) (taken : st.step (.abandon w) = some st') :
    st'.sched = (st.sched.abandon w waiter).1 := by
  simp only [System.step, known] at taken
  split_ifs at taken
  exact Option.some.inj taken ▸ rfl

theorem release_step {st st' : System} {w : Nat} {waiter : Waiter}
    (known : st.sched.waiters[w]? = some waiter) (taken : st.step (.release w) = some st') :
    st'.sched = (st.sched.release w waiter).1 := by
  simp only [System.step, known] at taken
  split_ifs at taken
  exact Option.some.inj taken ▸ rfl

section Leaving

variable {st st' : System} {calls : List Call} {i : Nat} {c : Call}

theorem Coupled.abandoned (coupled : Coupled st calls) (known : calls[i]? = some c) {how : GivenUp}
    (phase : c.phase = .abandoning how) (taken : st.step (.abandon i) = some st') :
    Coupled st' (calls.set i { c with
      phase := after how
      gave := c.gave + (st.sched.sem.len - st'.sched.sem.len) }) := by
  obtain ⟨w, waiter, took, gave, fits⟩ := paired_at coupled.paired known
  rw [phase] at fits
  have unsettled : w.resolved = false := fits
  obtain ⟨waiters, len⟩ := abandon_unresolved coupled.wound.ok waiter unsettled
  rw [← abandon_step waiter taken] at waiters len
  refine coupled.set waiter (coupled.wound.step taken) waiters ?_ ⟨took, ?_, ?_⟩
  · simp only [holding, unsettled, Waiter.resolve, Bool.not_false, Bool.and_true, Bool.not_true,
      Bool.and_false, Bool.toNat_false]
    omega
  · simp only [gave, unsettled, Waiter.resolve, Bool.and_false, Bool.and_true, Bool.toNat_false]
    omega
  · cases how with
    | done err => exact .inl rfl
    | expired stage => exact rfl

theorem Coupled.released (coupled : Coupled st calls) (known : calls[i]? = some c) {how : Exit}
    (phase : c.phase = .leaving how) (taken : st.step (.release i) = some st') :
    Coupled st' (calls.set i { c with
      phase := .left how
      releases := c.releases + 1
      gave := c.gave + (st.sched.sem.len - st'.sched.sem.len) }) := by
  obtain ⟨w, waiter, took, gave, fits⟩ := paired_at coupled.paired known
  rw [phase] at fits
  obtain ⟨granted, unsettled⟩ : w.granted = true ∧ w.resolved = false := fits
  have holds : holding w = true := by simp [holding, granted, unsettled]
  obtain ⟨waiters, len⟩ := release_holding coupled.wound.ok waiter holds
  rw [← release_step waiter taken] at waiters len
  refine coupled.set waiter (coupled.wound.step taken) waiters ?_ ⟨took, ?_, granted, rfl⟩
  · have spent : holding w.resolve = false := by simp [holding, Waiter.resolve]
    rw [holds, spent]
    exact len
  · simp only [gave, granted, unsettled, Waiter.resolve, Bool.and_false, Bool.and_true,
      Bool.toNat_false, Bool.toNat_true]
    omega

end Leaving

theorem granted_of_closed {w : Waiter} (sound : Sound w) (closed : 0 < w.closes)
    (unstopped : w.err = none) : w.granted = true := by
  cases granted : w.granted with
  | true => rfl
  | false =>
      rw [sound.closes, granted, unstopped] at closed
      cases closed

theorem Coupled.react {s : Senders} {st : System} {i : Nat} {c c' : Call} {gate : Gate}
    (coupled : Coupled st s.calls) (scheduled : s.gate = .scheduled st)
    (known : s.calls[i]? = some c) (reacts : Reacts s i c gate c') :
    ∃ st', gate = .scheduled st' ∧ Coupled st' (s.calls.set i c') := by
  obtain ⟨w, waiter, took, gave, fits⟩ := paired_at coupled.paired known
  have stay (same : gate = s.gate) (agrees : Agrees c' w) :
      ∃ st', gate = .scheduled st' ∧ Coupled st' (s.calls.set i c') :=
    ⟨st, same.trans scheduled, coupled.set (f := id) waiter coupled.wound (by simp) rfl agrees⟩
  cases reacts with
  | contextEnds | warned => exact stay rfl ⟨took, gave, fits⟩
  | acquired _ plain | received _ plain =>
      rw [scheduled] at plain
      cases plain
  | cutOff phase | timedOut phase =>
      rcases phase with phase | phase <;>
      · rw [phase] at fits
        exact fits.elim
  | permitted phase =>
      rw [phase] at fits
      exact fits.elim
  | observed st' fair phase w' known' closed sound =>
      rw [scheduled] at fair
      cases fair
      obtain rfl := Option.some.inj (waiter.symm.trans known')
      have granted := granted_of_closed (coupled.wound.sound w (List.mem_of_getElem? waiter))
        closed sound
      rw [phase] at fits
      exact stay rfl ⟨took, gave, granted, fits⟩
  | stopped st' fair phase w' known' failed =>
      rw [scheduled] at fair
      cases fair
      obtain rfl := Option.some.inj (waiter.symm.trans known')
      exact stay rfl ⟨took, gave, .inr failed⟩
  | givesUp phase =>
      rw [phase] at fits
      exact stay rfl ⟨took, gave, fits⟩
  | shed stage phase =>
      rw [phase] at fits
      exact stay rfl ⟨took, gave, .inl fits⟩
  | wrappingFails phase | invoked phase | finished phase =>
      rw [phase] at fits
      exact stay rfl ⟨took, gave, fits⟩
  | abandoned st₁ st' fair how phase taken =>
      rw [scheduled] at fair
      cases fair
      exact ⟨st', rfl, coupled.abandoned known phase taken⟩
  | released st₁ st' fair how phase taken =>
      rw [scheduled] at fair
      cases fair
      exact ⟨st', rfl, coupled.released known phase taken⟩

theorem Coupled.enqueue {st st' : System} {calls : List Call} {key : CallerKey} (slow : Bool)
    (coupled : Coupled st calls) (taken : st.step (.enqueue key) = some st') :
    Coupled st' (calls ++ [.new .queued slow]) := by
  have wound := coupled.wound.step taken
  simp only [System.step] at taken
  split_ifs at taken
  obtain rfl := Option.some.inj taken
  have waiters := enqueue_waiters st.sched st.stopped key
  refine ⟨wound, ?_, ?_⟩
  · have idle : holding (enqueued st.stopped key) = false := by cases st.stopped <;> rfl
    have len : (st.sched.enqueue st.stopped key).sem.len = st.sched.sem.len := by
      cases st.stopped <;> rfl
    simp only [System.after, waiters, len, coupled.len]
    simp [List.countP_append, idle]
  · have fresh : Agrees (.new .queued slow) (enqueued st.stopped key) := by
      cases st.stopped <;> exact ⟨rfl, rfl, rfl⟩
    simp only [System.after, waiters]
    exact List.rel_append coupled.paired (.cons fresh .nil)

theorem Agrees.stop {c : Call} {w : Waiter} (agrees : Agrees c w) : Agrees c w.stop := by
  obtain ⟨took, gave, fits⟩ := agrees
  refine ⟨took, gave, ?_⟩
  cases phase : c.phase with
  | refused err => exact .inr rfl
  | _ =>
      rw [phase] at fits
      exact fits

theorem Agrees.grant {c : Call} {w : Waiter} (agrees : Agrees c w) (waiting : pending w = true) :
    Agrees { c with took := c.took + 1 } w.grant := by
  obtain ⟨took, gave, fits⟩ := agrees
  simp only [pending, Bool.and_eq_true, Bool.not_eq_true', Option.isNone_iff_eq_none] at waiting
  obtain ⟨⟨ungranted, unresolved⟩, unstopped⟩ := waiting
  rw [ungranted] at took gave
  refine ⟨by simp [took, Waiter.grant], by simp [gave, Waiter.grant, unresolved], ?_⟩
  -- Only a call that is still waiting has a waiter that is neither granted nor settled.
  cases phase : c.phase with
  | queued | abandoning how =>
      rw [phase] at fits
      exact fits
  | _ => simp [phase, Fits, ungranted, unresolved, unstopped] at fits

theorem Coupled.dispatch {st st' : System} {calls : List Call} {a : Action}
    (coupled : Coupled st calls) (internal : a.isInternal = true) (taken : st.step a = some st') :
    Coupled st' (Senders.charge calls st a st') := by
  have wound := coupled.wound.step taken
  cases step_dispatched coupled.wound.ok internal taken with
  | grant hit known waiting waiters len =>
      refine ⟨wound, ?_, ?_⟩
      · have change := Counting.countP_modify known Waiter.grant holding
        rw [holding_of_pending waiting, holding_grant waiting] at change
        rw [waiters, len, coupled.len]
        exact change.symm
      · have one : st'.sched.sem.len - st.sched.sem.len = 1 := by omega
        simp only [Senders.charge, hit, waiters, one]
        apply paired_modify coupled.paired
        intro c w _ here agrees
        obtain rfl := Option.some.inj (known.symm.trans here)
        exact agrees.grant waiting
  | drain silent waiters len =>
      refine ⟨wound, ?_, ?_⟩
      · rw [waiters, len, coupled.len, List.countP_map]
        congr 1
        funext w
        exact (holding_stopIf _ w).symm
      · simp only [Senders.charge, silent, waiters]
        rw [List.forall₂_map_right_iff]
        apply coupled.paired.imp
        intro c w agrees
        unfold stopIf
        split_ifs
        · exact agrees.stop
        · exact agrees
  | quiet silent waiters len =>
      refine ⟨wound, by rw [waiters, len, coupled.len], ?_⟩
      simp only [Senders.charge, silent, waiters]
      exact coupled.paired

end BrokerMcp.Proof.Sender
