import BrokerMcp.Audit.Event
import BrokerMcp.Library.Assoc
import Mathlib.Tactic

/-!
# The records that the constructor accepts

`Complete` says, for each type of record, what its fields are; it does not mention the table. The
constructor accepts a record if and only if it is complete (`newEvent_ok`), by one lemma per check of
`validate` and a split on the type at the end.
-/

namespace BrokerMcp.Proof.Audit
open BrokerMcp.Audit

variable {formatDuration : Int → String} {ctx : Context} {now : Int} {f g : Fields}

/-! ## The specification -/

def Untimed (f : Fields) : Prop := f.startedAt = 0 ∧ f.duration = 0

def Timed (f : Fields) : Prop := f.startedAt ≠ 0 ∧ 0 ≤ f.duration

def Unended (f : Fields) : Prop :=
  f.outcome = "" ∧ f.errorType = "" ∧ f.panicRecovered = false ∧ f.requestSent = none

def Ended (f : Fields) : Prop :=
  (f.outcome = outcomeSuccess ∧ f.errorType = "" ∧ f.panicRecovered = false ∧
      f.requestSent = none) ∨
    (f.outcome = outcomeCancelled ∧ f.errorType = "" ∧ f.panicRecovered = false ∧
      f.requestSent ≠ none) ∨
    (f.outcome = outcomeError ∧ f.errorType ∈ errorTypeVocabulary ∧
      (f.panicRecovered = true → f.errorType = "panic") ∧ f.requestSent ≠ none)

def Complete (f : Fields) : EventType → Prop
  | .operation =>
      Ended f ∧ f.reason = "" ∧ f.droppedEventType = "" ∧ f.tool ≠ "" ∧ f.argumentsHash ≠ "" ∧
        f.broker ≠ "" ∧ Timed f
  | .authSuccess =>
      Unended f ∧ f.reason = "" ∧ f.droppedEventType = "" ∧ f.tool = "" ∧ f.argumentsHash = "" ∧
        f.broker = "" ∧ Untimed f
  | .authFailure =>
      Unended f ∧ f.reason ∈ authFailureReasons ∧ f.droppedEventType = "" ∧ f.tool = "" ∧
        f.argumentsHash = "" ∧ f.broker = "" ∧ Untimed f
  | .authzDenied =>
      Unended f ∧ f.reason ∈ authzDeniedReasons ∧ f.droppedEventType = "" ∧ f.tool ≠ "" ∧
        f.argumentsHash = "" ∧ f.broker = "" ∧ Untimed f
  | .brokerAuthzDenied =>
      Unended f ∧ f.reason ∈ brokerAuthzDeniedReasons ∧ f.droppedEventType = "" ∧ f.tool ≠ "" ∧
        f.argumentsHash = "" ∧ f.broker ≠ "" ∧ Untimed f
  | .ownerValidationRejected =>
      Unended f ∧ f.reason ∈ ownerValidationRejectedReasons ∧ f.droppedEventType = "" ∧
        f.tool ≠ "" ∧ f.argumentsHash = "" ∧ f.broker ≠ "" ∧ Untimed f
  | .brokerAuthRetry =>
      (f.outcome = outcomeSuccess ∨ f.outcome = outcomeError) ∧ f.errorType = "" ∧
        f.panicRecovered = false ∧ f.requestSent = none ∧ f.reason = "" ∧ f.droppedEventType = "" ∧
        f.tool = "" ∧ f.argumentsHash = "" ∧ f.broker ≠ "" ∧ (Timed f ∨ Untimed f)
  | .auditDrop =>
      Unended f ∧ f.reason = "" ∧
        (f.droppedEventType ≠ "" → ∃ t : EventType, f.droppedEventType = t.text) ∧
        f.argumentsHash = "" ∧ Untimed f

/-! ## The checks -/

def Fits (present : Bool) (a : Applicability) : Prop :=
  (a = .required → present = true) ∧ (a = .forbidden → present = false)

@[simp]
theorem then_ok {α : Type} {x : Except String Unit} {next : Unit → Except String α} {a : α} :
    (x >>= next) = .ok a ↔ x = .ok () ∧ next () = .ok a := by
  cases x <;> simp [bind, Except.bind]

@[simp]
theorem checkPresence_ok {field type : String} {present : Bool} {a : Applicability} :
    checkPresence field present a type = .ok () ↔ Fits present a := by
  unfold checkPresence Fits
  cases a <;> cases present <;> simp

@[simp]
theorem checkMember_ok {value message : String} {vocab : List String} :
    checkMember value vocab message = .ok () ↔ (value ≠ "" → value ∈ vocab) := by
  unfold checkMember
  split
  · rename_i h
    simp [h.1, h.2]
  · rename_i h
    simpa [not_and, not_not] using h

@[simp]
theorem checkPanicRecovered_ok :
    checkPanicRecovered f = .ok () ↔
      (f.panicRecovered = true → f.outcome = outcomeError ∧ f.errorType = "panic") := by
  unfold checkPanicRecovered
  split
  · rename_i h
    rcases h with ⟨panicked, other | other⟩ <;> simp [panicked, other]
  · rename_i h
    simpa [not_and, not_or] using h

theorem checkTiming_ok {r : Rules} :
    checkTiming formatDuration f r = .ok () ↔
      Fits (f.startedAt ≠ 0) r.timing ∧ (Timed f ∨ Untimed f) := by
  unfold checkTiming Timed Untimed
  rw [then_ok, checkPresence_ok]
  apply and_congr_right
  intro _
  split
  · rename_i h
    simp [h.1, h.2]
  · rename_i h
    split
    · rename_i negative
      have ended : f.duration ≠ 0 := by omega
      have late : ¬ 0 ≤ f.duration := by omega
      simp [ended, late]
    · simp only [true_iff]
      omega

theorem mem_texts {text : String} :
    text ∈ EventType.all.map EventType.text ↔ ∃ t : EventType, text = t.text := by
  constructor
  · intro member
    obtain ⟨t, -, rfl⟩ := List.mem_map.mp member
    exact ⟨t, rfl⟩
  · rintro ⟨t, rfl⟩
    apply List.mem_map_of_mem
    cases t <;> decide

@[simp]
theorem ofText_text (t : EventType) : EventType.ofText? t.text = some t := by
  cases t <;> decide

theorem ofText_eq_some {text : String} {t : EventType} :
    EventType.ofText? text = some t ↔ text = t.text := by
  constructor
  · intro found
    have := List.find?_some found
    exact (of_decide_eq_true this).symm
  · rintro rfl
    exact ofText_text t

/-! ## The table -/

theorem ne_empty_of_mem {value : String} {vocab : List String} (filled : "" ∉ vocab)
    (member : value ∈ vocab) : value ≠ "" := by
  rintro rfl
  exact filled member

@[simp]
theorem fits_required {present : Bool} : Fits present .required ↔ present = true := by simp [Fits]

@[simp]
theorem fits_forbidden {present : Bool} : Fits present .forbidden ↔ present = false := by
  simp [Fits]

@[simp]
theorem fits_optional {present : Bool} : Fits present .optional := by simp [Fits]

theorem required_member {value : String} {vocab : List String} (filled : "" ∉ vocab) :
    (value ≠ "" ∧ (value ≠ "" → value ∈ vocab)) ↔ value ∈ vocab := by
  constructor
  · intro ⟨set, member⟩
    exact member set
  · intro member
    exact ⟨ne_empty_of_mem filled member, fun _ => member⟩

theorem unset_member {value : String} {p : Prop} : (value = "" ∧ (value ≠ "" → p)) ↔ value = "" := by
  constructor
  · exact And.left
  · intro unset
    exact ⟨unset, fun set => absurd unset set⟩

theorem fits_timed : (f.startedAt ≠ 0 ∧ (Timed f ∨ Untimed f)) ↔ Timed f := by
  unfold Timed Untimed
  tauto

theorem fits_untimed : (f.startedAt = 0 ∧ (Timed f ∨ Untimed f)) ↔ Untimed f := by
  unfold Timed Untimed
  tauto

def Closes (f : Fields) (r : Rules) : Prop :=
  (Fits (f.outcome ≠ "") r.outcome ∧
      (f.outcome ≠ "" → f.outcome ∈ r.allowedOutcomes.getD allOutcomes)) ∧
    (Fits (f.errorType ≠ "") (resolveByOutcome r.errorType f.outcome) ∧
      (f.errorType ≠ "" → f.errorType ∈ errorTypeVocabulary)) ∧
    (f.panicRecovered = true → f.outcome = outcomeError ∧ f.errorType = "panic") ∧
    Fits f.requestSent.isSome (resolveByOutcome r.requestSent f.outcome)

theorem validate_ok_iff {r : Rules} :
    validate formatDuration f r = .ok () ↔
      Closes f r ∧
      (Fits (f.reason ≠ "") r.reason ∧ (f.reason ≠ "" → f.reason ∈ r.reasonVocab)) ∧
      (Fits (f.droppedEventType ≠ "") r.droppedEventType ∧
        (f.droppedEventType ≠ "" → ∃ t : EventType, f.droppedEventType = t.text)) ∧
      Fits (f.tool ≠ "") r.tool ∧ Fits (f.argumentsHash ≠ "") r.argumentsHash ∧
      Fits (f.broker ≠ "") r.broker ∧
      Fits (f.startedAt ≠ 0) r.timing ∧ (Timed f ∨ Untimed f) := by
  simp only [validate, checkOutcome, checkErrorType, checkReason, checkDropped, then_ok,
    checkPresence_ok, checkMember_ok, checkPanicRecovered_ok, checkTiming_ok, mem_texts, Closes,
    and_assoc]

theorem closes_operation : Closes f (applicabilityByType .operation) ↔ Ended f := by
  have filled : "" ∉ errorTypeVocabulary := by decide
  by_cases known : f.outcome ∈ allOutcomes
  · simp only [allOutcomes, List.mem_cons, List.not_mem_nil, or_false] at known
    rcases known with ended | ended | ended <;>
      simp [Closes, applicabilityByType, Ended, ended, resolveByOutcome, outcomeSuccess, outcomeError,
        outcomeCancelled, allOutcomes, Option.isSome_iff_ne_none] <;>
      grind
  · have other : f.outcome ≠ outcomeSuccess ∧ f.outcome ≠ outcomeError ∧
        f.outcome ≠ outcomeCancelled := by
      simpa [allOutcomes] using known
    simp [Closes, applicabilityByType, Ended, other]
    intro set member
    exact absurd (member set) known

theorem closes_forbidden {r : Rules} (outcome : r.outcome = .forbidden)
    (errorType : r.errorType = .forbidden) (requestSent : r.requestSent = .forbidden) :
    Closes f r ↔ Unended f := by
  simp only [Closes, Unended, outcome, errorType, requestSent, resolveByOutcome, fits_forbidden,
    decide_eq_false_iff_not, not_not, Option.isSome_eq_false_iff, Option.isNone_iff_eq_none]
  constructor
  · rintro ⟨⟨unset, -⟩, ⟨unnamed, -⟩, panicked, unsent⟩
    refine ⟨unset, unnamed, ?_, unsent⟩
    by_contra recovered
    have := (panicked (by simpa using recovered)).1
    rw [unset] at this
    exact absurd this (by decide)
  · rintro ⟨unset, unnamed, panicked, unsent⟩
    simp [unset, unnamed, panicked, unsent]

theorem closes_brokerAuthRetry :
    Closes f (applicabilityByType .brokerAuthRetry) ↔
      (f.outcome = outcomeSuccess ∨ f.outcome = outcomeError) ∧ f.errorType = "" ∧
        f.panicRecovered = false ∧ f.requestSent = none := by
  simp only [Closes, applicabilityByType, resolveByOutcome, fits_required, fits_forbidden,
    decide_eq_true_eq, decide_eq_false_iff_not, not_not, Option.getD_some,
    Option.isSome_eq_false_iff, Option.isNone_iff_eq_none]
  rw [required_member (by decide)]
  have panics : (f.errorType = "" ∧ f.errorType = "panic") ↔ False := by
    constructor
    · rintro ⟨unnamed, panicked⟩
      rw [unnamed] at panicked
      exact absurd panicked (by decide)
    · exact False.elim
  simp [retryOutcomes]
  grind

theorem validate_ok (t : EventType) :
    validate formatDuration f (applicabilityByType t) = .ok () ↔ Complete f t := by
  rw [validate_ok_iff]
  cases t with
  | operation =>
      rw [closes_operation]
      simp only [applicabilityByType, Complete, fits_required, fits_forbidden, decide_eq_true_eq,
        decide_eq_false_iff_not, not_not, unset_member, fits_timed]
  | brokerAuthRetry =>
      rw [closes_brokerAuthRetry]
      simp only [applicabilityByType, Complete, fits_required, fits_forbidden, fits_optional,
        decide_eq_true_eq, decide_eq_false_iff_not, not_not, unset_member, true_and, and_assoc]
  | auditDrop =>
      rw [closes_forbidden rfl rfl rfl]
      simp only [applicabilityByType, Complete, fits_forbidden, fits_optional, true_and,
        decide_eq_false_iff_not, not_not, unset_member, fits_untimed]
  | authSuccess =>
      rw [closes_forbidden rfl rfl rfl]
      simp only [applicabilityByType, Complete, fits_forbidden, decide_eq_false_iff_not, not_not,
        unset_member, fits_untimed]
  | authFailure | authzDenied | brokerAuthzDenied | ownerValidationRejected =>
      rw [closes_forbidden rfl rfl rfl]
      simp only [applicabilityByType, Complete, fits_required, fits_forbidden, decide_eq_true_eq,
        decide_eq_false_iff_not, not_not, unset_member, fits_untimed]
      rw [required_member (by decide)]

/-! ## The constructor -/

def eventOf (ctx : Context) (now : Int) (f : Fields) (t : EventType) : Event :=
  ⟨eventAttrs ctx now f (applicabilityByType t), levelByType t, t⟩

theorem newEvent_ok {e : Event} :
    newEvent formatDuration ctx now f = .ok e ↔
      ∃ t : EventType, f.type = t.text ∧ Complete f t ∧ e = eventOf ctx now f t := by
  unfold newEvent
  constructor
  · intro built
    cases known : EventType.ofText? f.type with
    | none => simp [known] at built
    | some t =>
        rw [known] at built
        simp only [then_ok] at built
        obtain ⟨valid, made⟩ := built
        exact ⟨t, ofText_eq_some.mp known, (validate_ok t).mp valid, (Except.ok.inj made).symm⟩
  · rintro ⟨t, typed, complete, rfl⟩
    rw [typed, ofText_text]
    simp only [then_ok]
    exact ⟨(validate_ok t).mpr complete, rfl⟩

def keyOrder : List String :=
  ["event", "audit_event_type", "audit_schema_version", "timestamp_utc", "correlation_id",
    "principal", "agent_client_id", "dropped_audit_event_type", "tool", "broker", "arguments_hash",
    "outcome", "error_type", "panic_recovered", "request_sent", "reason", "started_at_utc",
    "duration_ms"]

theorem stringAttr_keys (key value : String) :
    ((stringAttr key value).map Prod.fst).Sublist [key] := by
  unfold stringAttr
  split <;> simp

theorem identityAttrs_keys (ctx : Context) (r : Rules) :
    ((identityAttrs ctx r).map Prod.fst).Sublist ["principal", "agent_client_id"] := by
  unfold identityAttrs
  split
  · simp
  · split
    · simp
    · rw [List.map_cons]
      exact (stringAttr_keys _ _).cons_cons _

theorem timingAttrs_keys (f : Fields) :
    ((timingAttrs f).map Prod.fst).Sublist ["started_at_utc", "duration_ms"] := by
  unfold timingAttrs
  split <;> simp

theorem eventAttrs_keys (ctx : Context) (now : Int) (f : Fields) (r : Rules) :
    ((eventAttrs ctx now f r).map Prod.fst).Sublist keyOrder := by
  have panicked : ((if f.panicRecovered then [("panic_recovered", AttrValue.bool true)] else []).map
      Prod.fst).Sublist ["panic_recovered"] := by
    split <;> simp
  have sent : (((f.requestSent.map fun sent => ("request_sent", AttrValue.bool sent)).toList).map
      Prod.fst).Sublist ["request_sent"] := by
    cases f.requestSent <;> simp
  simp only [eventAttrs, List.map_append]
  exact ((((((((((((List.Sublist.refl _).append (stringAttr_keys _ _)).append
    (identityAttrs_keys _ _)).append (stringAttr_keys _ _)).append (stringAttr_keys _ _)).append
    (stringAttr_keys _ _)).append (stringAttr_keys _ _)).append (stringAttr_keys _ _)).append
    (stringAttr_keys _ _)).append panicked).append sent).append (stringAttr_keys _ _)).append
    (timingAttrs_keys _)

theorem keyOrder_nodup : keyOrder.Nodup := by decide

/-! ## Reading a record -/

def textOf : Option AttrValue → String
  | some (.string s) => s
  | _ => ""

def instantOf : Option AttrValue → Int
  | some (.instant t) => t
  | _ => 0

def intOf : Option AttrValue → Int
  | some (.int64 n) => n
  | _ => 0

def boolOf : Option AttrValue → Option Bool
  | some (.bool b) => some b
  | _ => none

/-- The fields of a record, with its duration in whole milliseconds. -/
def readFields (attrs : List Attr) : Fields :=
  { type := textOf (attrs.lookup "audit_event_type")
    outcome := textOf (attrs.lookup "outcome")
    errorType := textOf (attrs.lookup "error_type")
    reason := textOf (attrs.lookup "reason")
    tool := textOf (attrs.lookup "tool")
    broker := textOf (attrs.lookup "broker")
    argumentsHash := textOf (attrs.lookup "arguments_hash")
    startedAt := instantOf (attrs.lookup "started_at_utc")
    duration := intOf (attrs.lookup "duration_ms") * 1000000
    panicRecovered := boolOf (attrs.lookup "panic_recovered") = some true
    requestSent := boolOf (attrs.lookup "request_sent")
    droppedEventType := textOf (attrs.lookup "dropped_audit_event_type")
    timestamp := instantOf (attrs.lookup "timestamp_utc") }

theorem lookup_stringAttr {key value wanted : String} :
    (stringAttr key value).lookup wanted =
      if wanted = key ∧ value ≠ "" then some (.string value) else none := by
  unfold stringAttr
  split <;> by_cases same : wanted = key <;> simp_all [Assoc.lookup_cons_eq]

theorem lookup_identityAttrs {r : Rules} {wanted : String} (other : wanted ≠ "principal")
    (client : wanted ≠ "agent_client_id") : (identityAttrs ctx r).lookup wanted = none := by
  unfold identityAttrs
  split
  · rfl
  · split
    · rfl
    · simp [Assoc.lookup_cons_eq, lookup_stringAttr, other, client]

theorem lookup_timingAttrs {wanted : String} (other : wanted ≠ "started_at_utc")
    (ended : wanted ≠ "duration_ms") : (timingAttrs f).lookup wanted = none := by
  unfold timingAttrs
  split <;> simp [Assoc.lookup_cons_eq, other, ended]

theorem lookup_panicRecovered {wanted : String} :
    (if f.panicRecovered then [("panic_recovered", AttrValue.bool true)] else []).lookup wanted =
      if wanted = "panic_recovered" ∧ f.panicRecovered then some (.bool true) else none := by
  split <;> by_cases same : wanted = "panic_recovered" <;> simp_all [Assoc.lookup_cons_eq]

theorem lookup_requestSent {wanted : String} :
    (f.requestSent.map fun sent => ("request_sent", AttrValue.bool sent)).toList.lookup wanted =
      if wanted = "request_sent" then f.requestSent.map AttrValue.bool else none := by
  cases f.requestSent <;> by_cases same : wanted = "request_sent" <;> simp_all [Assoc.lookup_cons_eq]

theorem textOf_set (value : String) :
    textOf (if value = "" then none else some (.string value)) = value := by
  split
  · rename_i unset
    exact unset.symm
  · rfl

theorem instantOf_started (paired : Timed f ∨ Untimed f) :
    instantOf ((timingAttrs f).lookup "started_at_utc") = f.startedAt := by
  unfold timingAttrs
  rcases paired with ⟨started, -⟩ | ⟨unset, -⟩
  · simp [started, instantOf]
  · simp [unset, instantOf]

theorem intOf_duration (paired : Timed f ∨ Untimed f) :
    intOf ((timingAttrs f).lookup "duration_ms") = f.duration.tdiv 1000000 := by
  unfold timingAttrs
  rcases paired with ⟨started, -⟩ | ⟨unset, none⟩
  · simp [started, Assoc.lookup_cons_eq, intOf]
  · simp [unset, none, intOf]

theorem boolOf_panicRecovered :
    (boolOf (if f.panicRecovered then some (.bool true) else none) = some true) ↔
      f.panicRecovered = true := by
  cases f.panicRecovered <;> simp [boolOf]

theorem boolOf_map (b : Option Bool) : boolOf (b.map AttrValue.bool) = b := by
  cases b <;> rfl

theorem readFields_eventAttrs {r : Rules} (paired : Timed f ∨ Untimed f) :
    readFields (eventAttrs ctx now f r) =
      { f with
        duration := f.duration.tdiv 1000000 * 1000000
        timestamp := if f.timestamp = 0 then now else f.timestamp } := by
  simp [readFields, eventAttrs, List.lookup_append, Assoc.lookup_cons_eq, lookup_stringAttr,
    lookup_identityAttrs, lookup_timingAttrs, lookup_panicRecovered, lookup_requestSent, textOf_set,
    instantOf_started paired, intOf_duration paired, boolOf_panicRecovered, boolOf_map]
  simp [textOf, instantOf]

theorem Complete.paired {t : EventType} (complete : Complete f t) : Timed f ∨ Untimed f := by
  cases t with
  | operation => exact .inl complete.2.2.2.2.2.2
  | brokerAuthRetry => exact complete.2.2.2.2.2.2.2.2.2
  | auditDrop => exact .inr complete.2.2.2.2
  | _ => exact .inr complete.2.2.2.2.2.2

/-- The constructor accepts the records that are complete. What it makes of one has its keys in one
order, none twice, and reads back as the fields it was made of. -/
theorem newEvent_schema (formatDuration : Int → String) (ctx : Context) (now : Int) (f : Fields) :
    ((∃ e, newEvent formatDuration ctx now f = .ok e) ↔
        ∃ t : EventType, f.type = t.text ∧ Complete f t) ∧
      ∀ e, newEvent formatDuration ctx now f = .ok e →
        e.type.text = f.type ∧ e.level = levelByType e.type ∧
          (e.attrs.map Prod.fst).Sublist keyOrder ∧ (e.attrs.map Prod.fst).Nodup ∧
          readFields e.attrs =
            { f with
              duration := f.duration.tdiv 1000000 * 1000000
              timestamp := if f.timestamp = 0 then now else f.timestamp } := by
  constructor
  · constructor
    · rintro ⟨e, built⟩
      obtain ⟨t, typed, complete, -⟩ := newEvent_ok.mp built
      exact ⟨t, typed, complete⟩
    · rintro ⟨t, typed, complete⟩
      exact ⟨_, newEvent_ok.mpr ⟨t, typed, complete, rfl⟩⟩
  · intro e built
    obtain ⟨t, typed, complete, rfl⟩ := newEvent_ok.mp built
    have ordered := eventAttrs_keys ctx now f (applicabilityByType t)
    exact ⟨typed.symm, rfl, ordered, ordered.nodup keyOrder_nodup,
      readFields_eventAttrs complete.paired⟩

/-! ## Refusals -/

structure Alike (f g : Fields) : Prop where
  type : g.type = f.type
  outcome : g.outcome = f.outcome
  errorType : g.errorType = f.errorType
  reason : g.reason = f.reason
  tool : g.tool = "" ↔ f.tool = ""
  broker : g.broker = "" ↔ f.broker = ""
  argumentsHash : g.argumentsHash = "" ↔ f.argumentsHash = ""
  startedAt : g.startedAt = f.startedAt
  duration : g.duration = f.duration
  panicRecovered : g.panicRecovered = f.panicRecovered
  requestSent : g.requestSent = f.requestSent
  droppedEventType : g.droppedEventType = f.droppedEventType

theorem validate_alike (alike : Alike f g) (r : Rules) :
    validate formatDuration g r = validate formatDuration f r := by
  simp only [validate, checkOutcome, checkErrorType, checkPanicRecovered, checkReason, checkDropped,
    checkTiming, alike.type, alike.outcome, alike.errorType, alike.reason, alike.tool, alike.broker,
    alike.argumentsHash, alike.startedAt, alike.duration, alike.panicRecovered, alike.requestSent,
    alike.droppedEventType, ne_eq]

/-- A refusal says the same for all texts of the tool, the broker and the hash, and for every
caller. -/
theorem newEvent_refusal {formatDuration : Int → String} {ctx ctx' : Context} {now now' : Int}
    {f g : Fields} {message : String} (alike : Alike f g)
    (refused : newEvent formatDuration ctx now f = .error message) :
    newEvent formatDuration ctx' now' g = .error message := by
  unfold newEvent at refused ⊢
  rw [alike.type]
  cases known : EventType.ofText? f.type with
  | none => simpa [known] using refused
  | some t =>
      rw [known] at refused
      simp only [validate_alike alike] at refused ⊢
      cases valid : validate formatDuration f (applicabilityByType t) with
      | error text => simpa [valid] using refused
      | ok u => simp [valid] at refused

theorem newEvent_refusal_tool :
    ∃ message,
      newEvent toString ⟨"", none⟩ 1 { type := "auth_success", tool := "create-queue" } =
          .error message ∧
        newEvent toString ⟨"id", none⟩ 2 { type := "auth_success", tool := "delete-queue" } =
          .error message := by
  have alike : Alike { type := "auth_success", tool := "create-queue" }
      { type := "auth_success", tool := "delete-queue" } := by
    constructor <;> decide
  have refused : newEvent toString ⟨"", none⟩ 1 { type := "auth_success", tool := "create-queue" } =
      .error ("audit: tool must not be set on audit_event_type " ++ Text.quote "auth_success") := rfl
  exact ⟨_, refused, newEvent_refusal alike refused⟩

end BrokerMcp.Proof.Audit
