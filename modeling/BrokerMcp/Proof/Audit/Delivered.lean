import BrokerMcp.Library.Cells
import BrokerMcp.Library.Trace
import BrokerMcp.Proof.Tools.Signals

namespace BrokerMcp.Proof.Audit
open BrokerMcp.Audit

variable {formatDuration : Int → String} {log : Log} {site : Site} {dctx : DropContext} {s t : Stream}

/-- The places of the server that emit, with what they emit. -/
inductive Produced : Emission → Prop where
  | call {m : Tools.Dispatch.ToolManager} {ctx : Tools.Dispatch.CallContext} {name : String}
      {desiredMessage : Tools.DesiredStateOutcome → String} {params : Composite.Object} {e : Emission} :
      e ∈ (Tools.Dispatch.invoke m ctx name desiredMessage params).emissions → Produced e
  | authSuccess : Produced authSuccess
  | authFailure (reason : String) : Produced (authFailure reason)
  | authzDenied (tool reason : String) : Produced (authzDenied tool reason)
  | brokerAuthRetry (recovered : Bool) (broker : String) : Produced (brokerAuthRetry recovered broker)

def Nameable (dctx : DropContext) : Prop := ∃ t : EventType, dctx.droppedEventType = t.text

def Sound : Emission → Prop
  | .record f dctx => f.type ≠ EventType.auditDrop.text ∧ Nameable dctx
  | .drop dctx => Nameable dctx

theorem Produced.sound {e : Emission} (produced : Produced e) : Sound e := by
  cases produced with
  | call emitted =>
      obtain ⟨brokerAlias, (rfl | rfl) | rfl | ⟨f, typed, rfl⟩⟩ := Tools.invoke_emission emitted
      · exact ⟨by simp [EventType.text], .ownerValidationRejected, rfl⟩
      · exact ⟨by simp [EventType.text], .brokerAuthzDenied, rfl⟩
      · exact ⟨.operation, rfl⟩
      · exact ⟨by simp [typed, EventType.text], .operation, rfl⟩
  | authSuccess => exact ⟨by simp [EventType.text], .authSuccess, rfl⟩
  | authFailure reason => exact ⟨by simp [EventType.text], .authFailure, rfl⟩
  | authzDenied tool reason => exact ⟨by simp [EventType.text], .authzDenied, rfl⟩
  | brokerAuthRetry recovered broker => exact ⟨by simp [EventType.text], .brokerAuthRetry, rfl⟩

def isNotice (e : Event) : Bool := e.type = .auditDrop

def delivered (log : Log) : Nat := log.records.countP fun e => !isNotice e

def notices (log : Log) : Nat := log.records.countP isNotice

def Flight.unsettled : Flight → Bool
  | .writing _ _ | .counting _ _ => true
  | _ => false

def Flight.unnoticed : Flight → Bool
  | .noticing _ _ => true
  | _ => false

def Flight.Sound : Flight → Prop
  | .writing _ e => Audit.Sound e
  | .counting _ dctx | .noticing _ dctx => Nameable dctx
  | .done => True

/-- A handler that filters by a level up to ERROR and refuses nothing. -/
def Supported (h : Handler) : Prop :=
  ∃ level ≤ levelError, (∀ l, h.enabled l = some (decide (level ≤ l))) ∧ ∀ e, h.handle e = some true

def Flight.Visible : Flight → Prop
  | .writing site _ | .counting site _ | .noticing site _ => Supported site.noticeHandler
  | .done => True

theorem newEvent_drop (formatDuration : Int → String) (site : Site) (nameable : Nameable dctx) :
    ∃ e, newEvent formatDuration site.ctx site.now (dropFields dctx) = .ok e ∧ e.type = .auditDrop ∧
      e.level = levelError := by
  obtain ⟨t, known⟩ := nameable
  refine ⟨eventOf site.ctx site.now (dropFields dctx) .auditDrop, ?_, rfl, rfl⟩
  refine newEvent_ok.mpr ⟨.auditDrop, rfl, ?_, rfl⟩
  exact ⟨⟨rfl, rfl, rfl, rfl⟩, rfl, fun _ => ⟨t, known⟩, rfl, rfl, rfl⟩

theorem write_supported {h : Handler} {e : Event} (supported : Supported h)
    (level : e.level = levelError) : write h e = true := by
  obtain ⟨bound, below, enabled, handled⟩ := supported
  simp [write, enabled, handled, level, below]

theorem newEvent_type {ctx : Context} {now : Int} {f : Fields} {e : Event}
    (built : newEvent formatDuration ctx now f = .ok e) : f.type = e.type.text := by
  obtain ⟨t, typed, -, rfl⟩ := newEvent_ok.mp built
  exact typed

@[simp]
theorem delivered_snoc (e : Event) :
    delivered { log with records := log.records ++ [e] } = delivered log + (!isNotice e).toNat := by
  cases h : isNotice e <;> simp [delivered, h]

@[simp]
theorem notices_snoc (e : Event) :
    notices { log with records := log.records ++ [e] } = notices log + (isNotice e).toNat := by
  cases h : isNotice e <;> simp [notices, h]

def Flight.dropping : Flight → Bool
  | .counting _ _ => true
  | _ => false

structure Advances (recorder : Bool) (log log' : Log) (flight flight' : Flight) : Prop where
  settled : delivered log' + (Flight.dropping flight).toNat + (Flight.unsettled flight').toNat =
    delivered log + (Flight.unsettled flight).toNat
  counted : log'.dropped = log.dropped + if recorder then (Flight.dropping flight).toNat else 0
  noticed : notices log' + (Flight.unnoticed flight').toNat ≤
    notices log + (Flight.unnoticed flight).toNat + (Flight.dropping flight).toNat
  visible : Flight.Visible flight →
    Flight.Visible flight' ∧ notices log' + (Flight.unnoticed flight').toNat =
      notices log + (Flight.unnoticed flight).toNat + (Flight.dropping flight).toNat
  sound : Flight.Sound flight'

theorem advances_idle {recorder : Bool} {flight flight' : Flight}
    (calm : Flight.dropping flight = false)
    (settled : Flight.unsettled flight' = Flight.unsettled flight)
    (unnoticed : Flight.unnoticed flight' = Flight.unnoticed flight)
    (visible : Flight.Visible flight → Flight.Visible flight') (sound : Flight.Sound flight') :
    Advances recorder log log flight flight' := by
  refine ⟨?_, ?_, ?_, fun seen => ⟨visible seen, ?_⟩, sound⟩
  · rw [calm, settled, Bool.toNat_false, Nat.add_zero]
  · simp [calm]
  · rw [calm, unnoticed, Bool.toNat_false, Nat.add_zero]
  · rw [calm, unnoticed, Bool.toNat_false, Nat.add_zero]

theorem advance_advances (formatDuration : Int → String) (recorder : Bool) (log : Log)
    {flight : Flight} (sound : Flight.Sound flight) :
    Advances recorder log (flight.advance formatDuration recorder log).1 flight
      (flight.advance formatDuration recorder log).2 := by
  cases flight with
  | done => exact advances_idle rfl rfl rfl id trivial
  | counting site dctx =>
      have kept : delivered (recordDrop recorder log) = delivered log ∧
          notices (recordDrop recorder log) = notices log := by
        cases recorder <;> exact ⟨rfl, rfl⟩
      simp only [Flight.advance]
      refine ⟨?_, ?_, ?_, fun visible => ⟨visible, ?_⟩, sound⟩
      · rw [kept.1]
        rfl
      · cases recorder <;> rfl
      · rw [kept.2]
        rfl
      · rw [kept.2]
        rfl
  | noticing site dctx =>
      obtain ⟨drop, built, typed, level⟩ := newEvent_drop formatDuration site sound
      simp only [Flight.advance, built, Log.write]
      have notice : isNotice drop = true := by simp [isNotice, typed]
      by_cases written : write site.noticeHandler drop = true
      · simp only [written, if_true]
        refine ⟨?_, ?_, ?_, ?_, trivial⟩
        · simp [Flight.unsettled, Flight.dropping, notice]
        · simp [Flight.dropping]
        · simp [Flight.unnoticed, Flight.dropping, notice]
        · intro visible
          simp [Flight.unnoticed, Flight.dropping, notice, Flight.Visible]
      · simp only [written]
        refine ⟨rfl, by simp [Flight.dropping], by simp [Flight.unnoticed, Flight.dropping], ?_, trivial⟩
        intro visible
        exact absurd (write_supported visible level) written
  | writing site emission =>
      cases emission with
      | drop dctx => exact advances_idle rfl rfl rfl id sound
      | record f dctx =>
          obtain ⟨other, nameable⟩ := sound
          simp only [Flight.advance]
          cases built : newEvent formatDuration site.ctx site.now f with
          | error message => exact advances_idle rfl rfl rfl id nameable
          | ok e =>
              have typed := newEvent_type built
              have apart : e.type ≠ .auditDrop := by
                intro same
                rw [same] at typed
                exact other typed
              have record : isNotice e = false := by simp [isNotice, apart]
              by_cases written : write site.handler e = true
              · simp only [written, if_true]
                refine ⟨?_, ?_, ?_, ?_, trivial⟩
                · simp [Flight.unsettled, Flight.dropping, record]
                · simp [Flight.dropping]
                · simp [Flight.unnoticed, record]
                · intro visible
                  simp [Flight.Visible, Flight.unnoticed, Flight.dropping, record]
              · simp only [written, apart, if_false]
                exact advances_idle rfl rfl rfl id ⟨e.type, rfl⟩

/-- An emission whose steps nothing comes between is `Emit`, or `EmitDrop`. -/
theorem advance_alone (recorder : Bool) (e : Emission) :
    let first := Flight.advance formatDuration recorder log (.writing site e)
    let second := Flight.advance formatDuration recorder first.1 first.2
    (Flight.advance formatDuration recorder second.1 second.2).1 =
      e.run formatDuration recorder site log := by
  cases e with
  | drop dctx =>
      simp only [Flight.advance, Emission.run, emitDrop]
      split <;> rfl
  | record f dctx =>
      simp only [Flight.advance, Emission.run, emitOrDrop]
      cases built : newEvent formatDuration site.ctx site.now f with
      | error message =>
          simp only [emitDrop]
          split <;> rfl
      | ok e =>
          simp only [emit]
          by_cases written : write site.handler e = true
          · simp only [written, if_true]
          · by_cases notice : e.type = .auditDrop
            · simp only [written, notice, if_true, if_false, Bool.false_eq_true]
            · simp only [written, notice, if_false, Bool.false_eq_true, emitDrop]
              split <;> rfl

def Admitted (p : Stream × StreamAction) : Prop := ∀ site e, p.2 = .start site e → Produced e

def Watched (p : Stream × StreamAction) : Prop :=
  ∀ site e, p.2 = .start site e → Supported site.noticeHandler

def isStart : Stream × StreamAction → Bool
  | (_, .start _ _) => true
  | _ => false

/-- The step of `EmitDrop` that counts the drop, if there is something to count it. -/
def isDrop : Stream × StreamAction → Bool
  | (s, .advance i) => s.flights[i]?.any Flight.dropping
  | _ => false

def InFlight (P : Flight → Prop) (s : Stream) : Prop :=
  ∀ (i : Nat) (flight : Flight), s.flights[i]? = some flight → P flight

section Steps

variable {recorder : Bool} {a : StreamAction}

structure Accounts (recorder : Bool) (s : Stream) (a : StreamAction) (t : Stream) : Prop where
  settled : delivered t.log + (isDrop (s, a)).toNat + t.flights.countP Flight.unsettled =
    delivered s.log + s.flights.countP Flight.unsettled + (isStart (s, a)).toNat
  counted : t.log.dropped = s.log.dropped + if recorder then (isDrop (s, a)).toNat else 0
  noticed : notices t.log + t.flights.countP Flight.unnoticed ≤
    notices s.log + s.flights.countP Flight.unnoticed + (isDrop (s, a)).toNat
  visible : Watched (s, a) → InFlight Flight.Visible s → InFlight Flight.Visible t ∧
    notices t.log + t.flights.countP Flight.unnoticed =
      notices s.log + s.flights.countP Flight.unnoticed + (isDrop (s, a)).toNat
  sound : InFlight Flight.Sound t

theorem step_accounts (sound : InFlight Flight.Sound s) (admitted : Admitted (s, a))
    (taken : s.step formatDuration recorder a = some t) : Accounts recorder s a t := by
  cases a with
  | start site e =>
      obtain rfl := Option.some.inj taken
      have unnoticed : (s.flights ++ [Flight.writing site e]).countP Flight.unnoticed =
          s.flights.countP Flight.unnoticed := by simp [Flight.unnoticed]
      refine ⟨?_, ?_, ?_, ?_, Cells.forall_snoc sound (admitted site e rfl).sound⟩
      · simp [List.countP_append, Flight.unsettled, isDrop, isStart]
        omega
      · simp [isDrop]
      · rw [unnoticed]
        exact Nat.le_add_right _ _
      · intro watched visible
        exact ⟨Cells.forall_snoc visible (watched site e rfl), by rw [unnoticed]; rfl⟩
  | advance i =>
      obtain ⟨flight, found, rfl⟩ := Option.map_eq_some_iff.mp taken
      have step := advance_advances formatDuration recorder s.log (sound i flight found)
      have drops : isDrop (s, .advance i) = Flight.dropping flight := by
        rw [isDrop, found, Option.any_some]
      have unsettled := Counting.countP_set found
        (flight.advance formatDuration recorder s.log).2 Flight.unsettled
      have unnoticed := Counting.countP_set found
        (flight.advance formatDuration recorder s.log).2 Flight.unnoticed
      refine ⟨?_, ?_, ?_, ?_, Cells.forall_set found sound step.sound⟩
      · have := step.settled
        simp only [drops, isStart, Bool.toNat_false]
        omega
      · rw [drops]
        exact step.counted
      · have := step.noticed
        simp only [drops]
        omega
      · intro _ visible
        obtain ⟨seen, kept⟩ := step.visible (visible i flight found)
        refine ⟨Cells.forall_set found visible seen, ?_⟩
        simp only [drops]
        omega

variable {history : List (Stream × StreamAction)}

theorem run_accounts (run : Transition.Run (Stream.step formatDuration recorder) s history t)
    (admitted : ∀ p ∈ history, Admitted p) (sound : InFlight Flight.Sound s) :
    delivered t.log + history.countP isDrop + t.flights.countP Flight.unsettled =
        delivered s.log + s.flights.countP Flight.unsettled + history.countP isStart ∧
      t.log.dropped = s.log.dropped + (if recorder then history.countP isDrop else 0) ∧
      notices t.log + t.flights.countP Flight.unnoticed ≤
        notices s.log + s.flights.countP Flight.unnoticed + history.countP isDrop := by
  induction run with
  | nil => simp
  | cons taken _ ih =>
      have step := step_accounts sound (admitted _ List.mem_cons_self) taken
      obtain ⟨settled, counted, noticed⟩ :=
        ih (fun p member => admitted p (List.mem_cons_of_mem _ member)) step.sound
      have := step.settled
      have := step.noticed
      rw [Counting.countP_cons_toNat, Counting.countP_cons_toNat]
      refine ⟨by omega, ?_, by omega⟩
      rw [counted, step.counted]
      cases recorder
      · rfl
      · simp only [if_true]
        omega

theorem run_noticed (run : Transition.Run (Stream.step formatDuration recorder) s history t)
    (admitted : ∀ p ∈ history, Admitted p) (watched : ∀ p ∈ history, Watched p)
    (sound : InFlight Flight.Sound s) (visible : InFlight Flight.Visible s) :
    notices t.log + t.flights.countP Flight.unnoticed =
      notices s.log + s.flights.countP Flight.unnoticed + history.countP isDrop := by
  induction run with
  | nil => simp
  | cons taken _ ih =>
      have step := step_accounts sound (admitted _ List.mem_cons_self) taken
      obtain ⟨seen, kept⟩ := step.visible (watched _ List.mem_cons_self) visible
      have rest := ih (fun p member => admitted p (List.mem_cons_of_mem _ member))
        (fun p member => watched p (List.mem_cons_of_mem _ member)) step.sound seen
      rw [Counting.countP_cons_toNat]
      omega

theorem inFlight_empty (P : Flight → Prop) : InFlight P {} := by
  intro i flight found
  simp at found

end Steps

/-- In every run, whatever the handlers do: each record that was to be emitted has been delivered, has
been dropped once, or is under way, and there are no more notices than drops. The drops are counted if
a `DropRecorder` is installed. If the handlers filter by a configurable level and do no more, each drop
has a notice or its notice is under way. -/
theorem records_accounted {formatDuration : Int → String} {recorder : Bool}
    {history : List (Stream × StreamAction)} {s : Stream}
    (run : Transition.Run (Stream.step formatDuration recorder) {} history s)
    (admitted : ∀ p ∈ history, Admitted p) :
    delivered s.log + history.countP isDrop + s.flights.countP Flight.unsettled =
        history.countP isStart ∧
      s.log.dropped = (if recorder then history.countP isDrop else 0) ∧
      notices s.log ≤ history.countP isDrop ∧
      ((∀ p ∈ history, Watched p) →
        notices s.log + s.flights.countP Flight.unnoticed = history.countP isDrop) := by
  obtain ⟨settled, counted, noticed⟩ := run_accounts run admitted (inFlight_empty _)
  have empty : delivered {} = 0 ∧ notices {} = 0 := ⟨rfl, rfl⟩
  simp only [empty.1, empty.2, List.countP_nil, Nat.zero_add] at settled counted noticed
  refine ⟨settled, counted, by omega, ?_⟩
  intro watched
  have kept := run_noticed run admitted watched (inFlight_empty _) (inFlight_empty _)
  simpa only [empty.2, List.countP_nil, Nat.zero_add] using kept

def refusingSite : Site where
  ctx := ⟨"", some ⟨"alice", "agent"⟩⟩
  now := 1
  handler := ⟨fun _ => some true, fun _ => some false⟩
  noticeHandler := ⟨fun l => some (decide (levelError ≤ l)), fun _ => some true⟩

def acceptingSite : Site :=
  { refusingSite with handler := ⟨fun l => some (decide (levelInfo ≤ l)), fun _ => some true⟩ }

def refusedActions : List StreamAction :=
  [.start refusingSite authSuccess, .start acceptingSite (authzDenied "create-queue" "not_permitted"),
    .advance 0, .advance 1, .advance 0, .advance 0]

def refusedEnd (recorder : Bool) : Stream :=
  (Transition.exec (Stream.step toString recorder) {} refusedActions).getD {}

def refusedHistory (recorder : Bool) : List (Stream × StreamAction) :=
  Transition.trace (Stream.step toString recorder) {} refusedActions

theorem refused_run (recorder : Bool) :
    Transition.Run (Stream.step toString recorder) {} (refusedHistory recorder)
      (refusedEnd recorder) := by
  apply Transition.run_of_exec
  cases recorder <;> rfl

theorem refused_admitted (recorder : Bool) : ∀ p ∈ refusedHistory recorder, Admitted p := by
  intro p member site e started
  have action := Transition.action_of_mem_trace member
  rw [started] at action
  simp only [refusedActions, List.mem_cons, StreamAction.start.injEq, reduceCtorEq,
    List.not_mem_nil, or_false] at action
  rcases action with ⟨-, rfl⟩ | ⟨-, rfl⟩
  · exact .authSuccess
  · exact .authzDenied _ _

theorem records_accounted_refused :
    (delivered (refusedEnd true).log = 1 ∧ notices (refusedEnd true).log = 1 ∧
      (refusedEnd true).log.dropped = 1 ∧ (refusedHistory true).countP isStart = 2) ∧
    notices (refusedEnd false).log = 1 ∧ (refusedEnd false).log.dropped = 0 := by
  obtain ⟨settled, counted, -⟩ := records_accounted (refused_run true) (refused_admitted true)
  have drops : (refusedHistory true).countP isDrop = 1 := rfl
  have arrived : delivered (refusedEnd true).log = 1 := rfl
  have landed : (refusedEnd true).flights.countP Flight.unsettled = 0 := rfl
  refine ⟨⟨arrived, rfl, counted.trans drops, ?_⟩, rfl, ?_⟩
  · rw [← settled, arrived, drops, landed]
  · exact (records_accounted (refused_run false) (refused_admitted false)).2.1

end BrokerMcp.Proof.Audit
