import BrokerMcp.Proof.Sender.Admission
import BrokerMcp.Semp.Pool

namespace BrokerMcp.Proof.Semp
open Resilience BrokerMcp.Semp
open Proof.Scheduler Proof.Sender Transition

inductive GateMoves : Gate → Gate → Prop where
  | stays (gate : Gate) : GateMoves gate gate
  | sends {sem : Semaphore} (room : sem.len < sem.cap) :
      GateMoves (.unscheduled sem) (.unscheduled sem.send)
  | receives {sem : Semaphore} : GateMoves (.unscheduled sem) (.unscheduled sem.receive)
  | steps {st st' : System} {a : Action} (taken : st.step a = some st') :
      GateMoves (.scheduled st) (.scheduled st')

theorem Reacts.gateMoves {s : Senders} {i : Nat} {c c' : Call} {gate : Gate}
    (reacts : Reacts s i c gate c') : GateMoves s.gate gate := by
  cases reacts with
  | acquired sem plain _ room => exact plain ▸ .sends room
  | received sem plain => exact plain ▸ .receives
  | abandoned st st' fair _ _ taken | released st st' fair _ _ taken => exact fair ▸ .steps taken
  | _ => exact .stays s.gate

theorem step_gateMoves {s s' : Senders} {a : Activity} (step : s.step a = some s') :
    GateMoves s.gate s'.gate := by
  cases step_acts step with
  | called sem plain => exact plain ▸ .stays _
  | enqueued st st' fair _ taken | scheduled st st' fair _ _ taken => exact fair ▸ .steps taken
  | reacted _ _ _ _ _ reacts => exact Reacts.gateMoves reacts

def Capped (cap : Nat) : Gate → Prop
  | .unscheduled sem => sem.cap = cap ∧ sem.len ≤ cap
  | .scheduled st => Wound st ∧ st.sched.sem.cap = cap

def Fair : Gate → Bool
  | .unscheduled _ => false
  | .scheduled _ => true

def Exited : Gate → Prop
  | .unscheduled _ => True
  | .scheduled st => st.stopped = true ∧ st.dispatcher = .exited

theorem Capped.len {cap : Nat} {gate : Gate} (capped : Capped cap gate) : gate.sem.len ≤ cap := by
  cases gate with
  | unscheduled sem => exact capped.2
  | scheduled st =>
      obtain ⟨wound, rfl⟩ := capped
      have slots := wound.ok.slots
      exact slots.len.trans_le (slots.bound.trans slots.cap)

theorem GateMoves.capped {cap : Nat} {gate gate' : Gate} (moves : GateMoves gate gate')
    (capped : Capped cap gate) : Capped cap gate' := by
  cases moves with
  | stays => exact capped
  | sends room =>
      refine ⟨(send_cap _).trans capped.1, ?_⟩
      rw [Semaphore.send, if_pos room, ← capped.1]
      exact room
  | receives =>
      refine ⟨(receive_cap _).trans capped.1, le_trans ?_ capped.2⟩
      unfold Semaphore.receive
      split_ifs
      · exact Nat.sub_le _ 1
      · exact Nat.le_refl _
  | steps taken =>
      exact ⟨capped.1.step taken, (step_stepped capped.1.ok taken).limits.cap.trans capped.2⟩

theorem GateMoves.fair {gate gate' : Gate} (moves : GateMoves gate gate') : Fair gate' = Fair gate := by
  cases moves <;> rfl

theorem GateMoves.exited {cap : Nat} {gate gate' : Gate} (moves : GateMoves gate gate')
    (capped : Capped cap gate) (exited : Exited gate) : Exited gate' := by
  cases moves with
  | stays => exact exited
  | sends | receives => trivial
  | steps taken =>
      have stepped := step_stepped capped.1.ok taken
      have still := (stepped.stay_exited exited.2).1
      exact ⟨stepped.leaving capped.1.leaving (.inr still), still⟩

structure AdmissionOk (cfg : SEMPConfig) (adm : Admission) : Prop where
  tidy : Tidy adm.senders
  capped : Capped (newSemaphore cfg.maxConcurrentPerBroker).cap adm.senders.gate
  fair : Fair adm.senders.gate = cfg.fair
  recorded : adm.callers.length = adm.senders.calls.length
  owned : ∀ caller ∈ adm.callers, caller.canonical = adm.owner

def Stopped (adm : Admission) : Prop := adm.limiterStopped = true ∧ Exited adm.senders.gate

structure Evolves (adm adm' : Admission) : Prop where
  owner : adm'.owner = adm.owner
  limiter : adm.limiterStopped = true → adm'.limiterStopped = true
  exited : Exited adm.senders.gate → Exited adm'.senders.gate

theorem Evolves.stopped {adm adm' : Admission} (evolves : Evolves adm adm') (stopped : Stopped adm) :
    Stopped adm' :=
  ⟨evolves.limiter stopped.1, evolves.exited stopped.2⟩

variable {cfg : SEMPConfig} {adm adm' : Admission}

theorem new_ok (cfg : SEMPConfig) (owner : String) : AdmissionOk cfg (.new cfg owner) := by
  have tidy := start_tidy cfg.fair cfg.paced cfg.maxConcurrentPerBroker cfg.maxConcurrentPerBroker
    cfg.maxQueueWait cfg.slowAdmissionAfter
  refine ⟨tidy, ?_, ?_, rfl, nofun⟩
  · cases fair : cfg.fair with
    | false =>
        simp only [Admission.new, Senders.start, fair]
        exact ⟨rfl, Nat.zero_le _⟩
    | true =>
        rw [fair] at tidy
        simp only [Admission.new, Senders.start, fair]
        exact ⟨(tidy.coupled rfl).wound, rfl⟩
  · cases fair : cfg.fair <;> simp only [Admission.new, Senders.start, fair] <;> rfl

theorem calls_length {s s' : Senders} {a : Activity} (step : s.step a = some s')
    (quiet : ∀ key, a ≠ .call key) : s'.calls.length = s.calls.length := by
  cases a with
  | call key => exact absurd rfl (quiet key)
  | schedule a =>
      simp only [Senders.step] at step
      split at step
      · cases step
      · split_ifs at step
        obtain ⟨st', -, rfl⟩ := Option.map_eq_some_iff.mp step
        unfold Senders.charge
        split
        · rfl
        · exact List.length_modify _ _ _
  | event i e =>
      obtain ⟨c, -, rest⟩ := Option.bind_eq_some_iff.mp step
      obtain ⟨⟨gate, c'⟩, -, same⟩ := Option.bind_eq_some_iff.mp rest
      obtain rfl := Option.some.inj same
      exact List.length_set

theorem call_length {s s' : Senders} {key : CallerKey} (step : s.step (.call key) = some s') :
    s'.calls.length = s.calls.length + 1 := by
  simp only [Senders.step] at step
  split at step
  · obtain rfl := Option.some.inj step
    exact List.length_append
  · obtain ⟨st', -, rfl⟩ := Option.map_eq_some_iff.mp step
    exact List.length_append

theorem act_ok {a : Activity} (ok : AdmissionOk cfg adm) (acts : adm.act a = some adm')
    (quiet : ∀ key, a ≠ .call key) :
    AdmissionOk cfg adm' ∧ Evolves adm adm' ∧ adm'.callers = adm.callers := by
  obtain ⟨senders, step, rfl⟩ := Option.map_eq_some_iff.mp acts
  have moves := step_gateMoves step
  refine ⟨⟨ok.tidy.step step, moves.capped ok.capped, moves.fair.trans ok.fair, ?_, ok.owned⟩,
    ⟨rfl, id, moves.exited ok.capped⟩, rfl⟩
  exact ok.recorded.trans (calls_length step quiet).symm

theorem stopLimiter_ok (ok : AdmissionOk cfg adm) (stops : adm.stopLimiter = some adm') :
    AdmissionOk cfg adm' ∧ Evolves adm adm' ∧ adm'.callers = adm.callers ∧
      adm'.limiterStopped = true := by
  obtain rfl := Option.some.inj stops
  exact ⟨⟨ok.tidy, ok.capped, ok.fair, ok.recorded, ok.owned⟩, ⟨rfl, fun _ => rfl, id⟩, rfl, rfl⟩

theorem request_ok {key : CallerKey} {senders : Senders} (caller : Caller) (ok : AdmissionOk cfg adm)
    (step : adm.senders.step (.call key) = some senders) (own : caller.canonical = adm.owner) :
    AdmissionOk cfg { adm with senders, callers := adm.callers ++ [caller] } ∧
      Evolves adm { adm with senders, callers := adm.callers ++ [caller] } := by
  have moves := step_gateMoves step
  refine ⟨⟨ok.tidy.step step, moves.capped ok.capped, moves.fair.trans ok.fair, ?_, ?_⟩,
    ⟨rfl, id, moves.exited ok.capped⟩⟩
  · show (adm.callers ++ [caller]).length = senders.calls.length
    rw [List.length_append, call_length step, ok.recorded]
    rfl
  · intro other member
    rcases List.mem_append.mp member with before | last
    · exact ok.owned other before
    · exact List.mem_singleton.mp last ▸ own

theorem exited_of_done (ok : AdmissionOk cfg adm) (exited : adm.exited = true) :
    Exited adm.senders.gate := by
  have capped := ok.capped
  unfold Admission.exited at exited
  cases gate : adm.senders.gate with
  | unscheduled sem => trivial
  | scheduled st =>
      rw [gate] at capped exited
      have still : st.dispatcher = .exited := by simpa using exited
      exact ⟨capped.1.leaving (.inr still), still⟩

theorem countP_zip_le {α β : Type} (xs : List α) (ys : List β) (P : α → Bool) (Q : β → Bool) :
    ((xs.zip ys).countP fun entry => P entry.1 && Q entry.2) ≤ xs.countP P := by
  induction xs generalizing ys with
  | nil => simp
  | cons x xs ih =>
      cases ys with
      | nil => simp
      | cons y ys =>
          rw [List.zip_cons_cons, Counting.countP_cons_toNat, Counting.countP_cons_toNat]
          have rest := ih ys
          have here : (P (x, y).1 && Q (x, y).2).toNat ≤ (P x).toNat := by
            cases P x <;> cases Q y <;> decide
          omega

theorem AdmissionOk.between (ok : AdmissionOk cfg adm) :
    adm.senders.calls.countP Call.between ≤ (newSemaphore cfg.maxConcurrentPerBroker).cap := by
  have len := ok.tidy.len
  have bound := ok.capped.len
  omega

end BrokerMcp.Proof.Semp
