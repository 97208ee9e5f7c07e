import BrokerMcp.Composite.Schema
import BrokerMcp.Proof.Composite.Fanned
import BrokerMcp.Proof.Composite.Scrubbed

namespace BrokerMcp.Proof.Composite
open Resilience BrokerMcp.Composite JsonSchema
open Transition

/-! ## Envelopes -/

theorem kind_object_iff (v : Value) : valueView.kind v = .object ↔ ∃ fields, v = .obj fields := by
  cases v with
  | float q =>
      simp only [valueView, reduceCtorEq, exists_false, iff_false]
      split_ifs <;> simp
  | _ => simp [valueView]

theorem accepts_typed_object (v : Value) :
    accepts valueView (typed "object") v = true ↔ ∃ fields, v = .obj fields := by
  rw [typed, accepts_type, hasType_object, kind_object_iff]

structure EnvelopeFits (item : Schema) (envelope : Object) : Prop where
  data : ∃ v, envelope.lookup "data" = some v ∧ accepts valueView item v = true
  info : ∀ v, envelope.lookup "meta" = some v → ∃ fields, v = .obj fields

theorem accepts_envelope_iff (item : Schema) (envelope : Object) :
    accepts valueView (envelopeSchema item) (.obj envelope) = true ↔
      EnvelopeFits item envelope := by
  rw [accepts_object_iff rfl rfl rfl]
  constructor
  · rintro ⟨-, fits⟩
    have present := fits.required "data" (List.mem_singleton_self _)
    obtain ⟨v, found⟩ := Option.isSome_iff_exists.mp present
    refine ⟨⟨v, found, fits.properties ("data", item) (.head _) v found⟩, ?_⟩
    intro v found
    have accepted := fits.properties ("meta", typed "object") (by simp [envelopeSchema]) v found
    exact (accepts_typed_object v).mp accepted
  · intro fits
    obtain ⟨v, found, accepted⟩ := fits.data
    refine ⟨rfl, ⟨?_, ?_, ?_, ?_⟩⟩
    · intro property member y here
      simp only [envelopeSchema, List.mem_cons, List.not_mem_nil, or_false] at member
      rcases member with rfl | rfl
      · obtain rfl := Option.some.inj (found.symm.trans here)
        exact accepted
      · exact (accepts_typed_object y).mpr (fits.info y here)
    · intro name member
      obtain rfl := List.mem_singleton.mp member
      exact Option.isSome_of_eq_some found
    · intro impossible
      cases impossible
    · intro rest impossible
      cases impossible

theorem scrubNested_isObj (v : Value) :
    (∃ fields, scrubNested v = .obj fields) ↔ ∃ fields, v = .obj fields := by
  cases v <;> simp [scrubNested]

theorem envelopeFits_scrub (item : Schema) (envelope : Object) :
    EnvelopeFits item (scrubEnvelope envelope) ↔ EnvelopeFits item envelope := by
  have data : (scrubEnvelope envelope).lookup "data" = envelope.lookup "data" :=
    lookup_scrubEnvelope envelope "data"
  have info : (scrubEnvelope envelope).lookup "meta" = (envelope.lookup "meta").map scrubNested :=
    lookup_scrubEnvelope envelope "meta"
  constructor
  · rintro ⟨found, objects⟩
    rw [data] at found
    refine ⟨found, fun v here => ?_⟩
    rw [info, here] at objects
    exact (scrubNested_isObj v).mp (objects _ rfl)
  · rintro ⟨found, objects⟩
    rw [← data] at found
    refine ⟨found, fun v here => ?_⟩
    rw [info] at here
    obtain ⟨before, was, rfl⟩ := Option.map_eq_some_iff.mp here
    exact (scrubNested_isObj before).mpr (objects before was)

/-! ## Pages -/

theorem scrubEnvelope_plain {m : Object}
    (plain : ∀ entry ∈ m, entry.1 ≠ "links" ∧ entry.1 ≠ "meta" ∧ entry.1 ≠ "byKey") :
    scrubEnvelope m = m := by
  induction m with
  | nil => simp [scrubEnvelope]
  | cons entry m ih =>
      obtain ⟨key, v⟩ := entry
      obtain ⟨links, info, rows⟩ := plain _ List.mem_cons_self
      have rest := ih fun entry member => plain entry (List.mem_cons_of_mem _ member)
      rw [scrubEnvelope, if_neg rows, rest, scrubEntry, if_neg links, if_neg info]

theorem mem_pagedResult {maxPages maxResults : Nat} {resumed : Bool} {fetched : Fetched}
    {entry : String × Value} (member : entry ∈ pagedResult maxPages maxResults resumed fetched) :
    entry = ("data", .arr fetched.allItems) ∨ entry = ("truncated", .bool fetched.truncated) ∨
      (resumed = true ∧ entry = ("resumed", .bool true)) ∨
      (fetched.nextCursor ≠ "" ∧ entry = ("nextCursor", .str fetched.nextCursor)) ∨
      ∃ message, entry = ("truncatedMessage", .str message) := by
  simp only [pagedResult, List.mem_append, List.mem_cons, List.not_mem_nil, or_false] at member
  rcases member with ((rfl | rfl) | member) | member
  · exact .inl rfl
  · exact .inr (.inl rfl)
  · split_ifs at member with on
    · exact .inr (.inr (.inl ⟨on, List.mem_singleton.mp member⟩))
    · cases member
  · split_ifs at member with _ offered
    · rcases List.mem_append.mp member with here | here
      · exact .inr (.inr (.inr (.inl ⟨offered, List.mem_singleton.mp here⟩)))
      · exact .inr (.inr (.inr (.inr ⟨_, List.mem_singleton.mp here⟩)))
    · exact .inr (.inr (.inr (.inr ⟨_, List.mem_singleton.mp member⟩)))
    · cases member

theorem accepts_array_iff (item : Schema) (items : List Value) :
    accepts valueView { type := some "array", items := some item } (.arr items) = true ↔
      ∀ v ∈ items, accepts valueView item v = true := by
  rw [accepts_iff]
  constructor
  · intro accepted
    exact accepted.items rfl item rfl
  · intro each
    refine ⟨?_, fun some => absurd rfl some, ?_, ?_, ?_, ?_, ?_, fun some => absurd rfl some⟩
    · intro type present
      obtain rfl := Option.some.inj present
      rfl
    · intro impossible
      cases impossible
    · intro impossible
      cases impossible
    · intro impossible
      cases impossible
    · intro impossible
      cases impossible
    · intro _ s present
      obtain rfl := Option.some.inj present
      exact each

theorem accepts_pages_iff (item : Schema) {resumable : Bool} {maxPages maxResults : Nat}
    {resumed : Bool} {fetched : Fetched} (resumes : resumed = true → resumable = true)
    (offers : fetched.nextCursor ≠ "" → resumable = true) :
    accepts valueView (pagesSchema item resumable)
        (.obj (pagedResult maxPages maxResults resumed fetched)) = true ↔
      ∀ v ∈ fetched.allItems, accepts valueView item v = true := by
  rw [accepts_object_iff rfl rfl rfl, ← accepts_array_iff]
  constructor
  · rintro ⟨-, fits⟩
    exact fits.properties ("data", _) (by simp [pagesSchema]) _ rfl
  · intro rows
    refine ⟨rfl, ⟨?_, ?_, ?_, ?_⟩⟩
    · rintro ⟨name, schema⟩ declared y found
      have inside := Assoc.mem_of_lookup found
      rcases mem_pagedResult inside with same | same | ⟨on, same⟩ | ⟨offered, same⟩ | ⟨message, same⟩
      all_goals obtain ⟨rfl, rfl⟩ := Prod.mk.inj same
      · have own : schema = { type := some "array", items := some item } := by
          simpa [pagesSchema] using declared
        exact own ▸ rows
      · have own : schema = typed "boolean" := by simpa [pagesSchema] using declared
        exact own ▸ accepts_type "boolean"
      · have own : schema = typed "boolean" := by simpa [pagesSchema, resumes on] using declared
        exact own ▸ accepts_type "boolean"
      · have own : schema = typed "string" := by simpa [pagesSchema, offers offered] using declared
        exact own ▸ accepts_type "string"
      · have own : schema = typed "string" := by simpa [pagesSchema] using declared
        exact own ▸ accepts_type "string"
    · intro name member
      simp only [pagesSchema, List.mem_cons, List.not_mem_nil, or_false] at member
      rcases member with rfl | rfl
      · rfl
      · rfl
    · intro _ name member
      obtain ⟨entry, inside, rfl⟩ := List.mem_map.mp member
      rcases mem_pagedResult inside with rfl | rfl | ⟨on, rfl⟩ | ⟨offered, rfl⟩ | ⟨message, rfl⟩
      · simp [pagesSchema]
      · simp [pagesSchema]
      · simp [pagesSchema, resumes on]
      · simp [pagesSchema, offers offered]
      · simp [pagesSchema]
    · intro rest impossible
      cases impossible

/-! ## Fan-outs -/

theorem mem_scrubRows {rows : Object} {row : String × Value} :
    row ∈ scrubRows rows ↔ ∃ v, (row.1, v) ∈ rows ∧ row.2 = scrubRow v := by
  induction rows with
  | nil => simp [scrubRows]
  | cons entry rows ih =>
      obtain ⟨key, v⟩ := entry
      obtain ⟨name, shown⟩ := row
      rw [scrubRows, List.mem_cons, ih]
      simp only [Prod.mk.injEq, List.mem_cons]
      constructor
      · rintro (⟨rfl, rfl⟩ | ⟨v, later, rfl⟩)
        · exact ⟨v, .inl ⟨rfl, rfl⟩, rfl⟩
        · exact ⟨v, .inr later, rfl⟩
      · rintro ⟨w, ⟨rfl, rfl⟩ | later, rfl⟩
        · exact .inl ⟨rfl, rfl⟩
        · exact .inr ⟨w, later, rfl⟩

def RowsFit (item : Schema) (byKey : Object) : Prop :=
  ∀ row ∈ byKey, ∃ envelope, row.2 = .obj envelope ∧ EnvelopeFits item envelope

theorem scrubRow_isObj {v : Value} {shown : Object} (same : scrubRow v = .obj shown) :
    ∃ envelope, v = .obj envelope ∧ shown = scrubEnvelope envelope := by
  cases v with
  | obj envelope => exact ⟨envelope, rfl, (Value.obj.inj same).symm⟩
  | _ => cases same

theorem accepts_row_iff (item : Schema) (v : Value) :
    accepts valueView (envelopeSchema item) (scrubRow v) = true ↔
      ∃ envelope, v = .obj envelope ∧ EnvelopeFits item envelope := by
  constructor
  · intro accepted
    have isObject := ((accepts_object_iff rfl rfl rfl).mp accepted).1
    obtain ⟨shown, same⟩ := (kind_object_iff _).mp isObject
    obtain ⟨envelope, rfl, rfl⟩ := scrubRow_isObj same
    rw [same, accepts_envelope_iff, envelopeFits_scrub] at accepted
    exact ⟨envelope, rfl, accepted⟩
  · rintro ⟨envelope, rfl, fits⟩
    rw [scrubRow, accepts_envelope_iff, envelopeFits_scrub]
    exact fits

theorem accepts_rows_iff (item : Schema) (byKey : Object) :
    accepts valueView { type := some "object", additional := some (envelopeSchema item) }
        (.obj (scrubRows byKey)) = true ↔ RowsFit item byKey := by
  rw [accepts_object_iff rfl rfl rfl]
  constructor
  · rintro ⟨-, fits⟩ ⟨key, v⟩ member
    have shown : (key, scrubRow v) ∈ scrubRows byKey := mem_scrubRows.mpr ⟨v, member, rfl⟩
    exact (accepts_row_iff item v).mp (fits.additional _ rfl _ shown List.not_mem_nil)
  · intro rows
    refine ⟨rfl, ⟨?_, ?_, ?_, ?_⟩⟩
    · intro property impossible
      cases impossible
    · intro name impossible
      cases impossible
    · intro impossible
      cases impossible
    · intro rest present row shown _
      obtain rfl := Option.some.inj present
      obtain ⟨v, member, same⟩ := mem_scrubRows.mp shown
      rw [same, accepts_row_iff]
      exact rows _ member

theorem mem_fanOutResult {byKey : Object} {skipped : Nat} {entry : String × Value}
    (member : entry ∈ fanOutResult byKey skipped) :
    entry = ("byKey", .obj byKey) ∨ entry = ("skipped", .int skipped) := by
  unfold fanOutResult at member
  split_ifs at member
  · simpa using member
  · exact .inl (List.mem_singleton.mp member)

theorem scrubEnvelope_fanOutResult (byKey : Object) (skipped : Nat) :
    scrubEnvelope (fanOutResult byKey skipped) = fanOutResult (scrubRows byKey) skipped := by
  unfold fanOutResult
  split_ifs
  · simp [scrubEnvelope, scrubByKey, scrubEntry]
  · simp [scrubEnvelope, scrubByKey]

theorem accepts_fanOut_iff (item : Schema) (byKey : Object) (skipped : Nat) :
    accepts valueView (fanOutSchema item) (.obj (scrubEnvelope (fanOutResult byKey skipped))) = true ↔
      RowsFit item byKey := by
  rw [accepts_object_iff rfl rfl rfl, scrubEnvelope_fanOutResult, ← accepts_rows_iff]
  constructor
  · rintro ⟨-, fits⟩
    exact fits.properties ("byKey", _) (.head _) _ rfl
  · intro rows
    refine ⟨rfl, ⟨?_, ?_, ?_, ?_⟩⟩
    · rintro ⟨name, schema⟩ declared y found
      rcases mem_fanOutResult (Assoc.mem_of_lookup found) with same | same
      all_goals obtain ⟨rfl, rfl⟩ := Prod.mk.inj same
      · have own : schema = { type := some "object", additional := some (envelopeSchema item) } := by
          simpa [fanOutSchema] using declared
        exact own ▸ rows
      · have own : schema = typed "integer" := by simpa [fanOutSchema] using declared
        exact own ▸ accepts_type "integer"
    · intro name member
      obtain rfl := List.mem_singleton.mp member
      rfl
    · intro _ name member
      obtain ⟨entry, inside, rfl⟩ := List.mem_map.mp member
      rcases mem_fanOutResult inside with rfl | rfl
      · simp [fanOutSchema]
      · simp [fanOutSchema]
    · intro rest impossible
      cases impossible

/-! ## Where a result comes from -/

variable {ce : CompositeExecutor} {host : Host}
variable {applyResultStrategy : List (String × Object) → Except Chain Object}
variable {s t : Execution} {a : ExecAction} {step : Step}

theorem Paged.resumable {call : Nat → Object → Except Chain Object} {baseArgs args : Object}
    {pageSize : Int} {maxResults room n : Nat} {items : List Value} {fetched : Fetched}
    (paged : Paged host step call baseArgs pageSize maxResults room n args items fetched)
    (offered : fetched.nextCursor ≠ "") : step.resumable = true := by
  induction paged with
  | capped | empty _ _ | last _ _ _ _ => exact absurd rfl offered
  | enough _ _ _ found =>
      by_contra fixed
      rw [offerCursor, if_neg (fun all => fixed all.1)] at found
      exact offered (Except.ok.inj found).symm
  | more _ _ _ _ _ _ ih => exact ih offered

theorem runSingle_pages {client : Client} {execCtx : ExecuteContext} {data : Object}
    (done : runSingle ce host step client execCtx = .ok data) (pages : step.followPages = true) :
    ∃ maxPages maxResults resumed fetched, data = pagedResult maxPages maxResults resumed fetched ∧
      (resumed = true → step.resumable = true) ∧
      (fetched.nextCursor ≠ "" → step.resumable = true) := by
  rw [runSingle, if_pos pages] at done
  cases out : fetchPaginated ce host step client execCtx with
  | error err =>
      rw [out] at done
      cases done
  | ok found =>
      rw [out] at done
      obtain rfl := Except.ok.inj done
      obtain ⟨op, baseArgs, fetched, -, loop, rfl⟩ := fetchPaginated_fetched out
      refine ⟨_, _, _, fetched, rfl, ?_, (fetchPages_paged loop).resumable⟩
      intro resumed
      by_contra fixed
      simp [resumeCursor, fixed] at resumed

def RowsMade (ce : CompositeExecutor) (host : Host) (step : Step) (byKey : Object) : Prop :=
  ∀ row ∈ byKey, ∃ client execCtx data,
    runSingle ce host step client execCtx = .ok data ∧ row.2 = .obj data

inductive Made (ce : CompositeExecutor) (host : Host) (step : Step) : Object → Prop where
  | single {client : Client} {execCtx : ExecuteContext} {data : Object}
      (alone : step.forEach = "") (done : runSingle ce host step client execCtx = .ok data) :
      Made ce host step data
  | fanned {byKey : Object} {skipped : Nat} (fans : step.forEach ≠ "")
      (rows : RowsMade ce host step byKey) : Made ce host step (fanOutResult byKey skipped)

def Making (ce : CompositeExecutor) (host : Host) (step : Step) : Work → Prop
  | .single thread => step.forEach = "" ∧
      ∀ data, thread.result? = some (.ok data) → Made ce host step data
  | .fanOut fan => step.forEach ≠ "" ∧ RowsMade ce host step fan.byKey ∧
      ∀ data, fan.loop = .returned (.ok data) → Made ce host step data
  | .refused _ => True

theorem Making.made {work : Work} (making : Making ce host step work) {data : Object}
    (past : work.result? = some (.ok data)) : Made ce host step data := by
  cases work with
  | single thread => exact making.2 data past
  | fanOut fan => exact making.2.2 data (loop_of_result past)
  | refused err => cases past

theorem runStep_making (step : Step) (execCtx : ExecuteContext) :
    Making ce host step (runStep ce step execCtx) := by
  unfold runStep
  split_ifs with fans
  · split
    · next fan begun =>
        obtain ⟨items, rfl⟩ := fetchFanOut_ok begun
        refine ⟨fans, ?_, ?_⟩
        · intro row impossible
          cases impossible
        · intro data impossible
          cases impossible
    · trivial
  · refine ⟨not_not.mp fans, ?_⟩
    intro data impossible
    cases impossible

theorem RowsMade.record {byKey : Object} (rows : RowsMade ce host step byKey) {worker : Worker}
    {execCtx : ExecuteContext} {move : Move} {thread : Thread}
    (moved : worker.thread.move (worker.work ce host step execCtx) move = some thread) {fan : FanOut}
    (same : fan.byKey = byKey) : RowsMade ce host step (fan.recorded worker.key thread) := by
  subst same
  unfold FanOut.recorded
  split
  · next data =>
      intro row member
      rcases Assoc.mem_of_mem_put member with rfl | old
      · obtain ⟨client, ended⟩ : ∃ client, worker.work ce host step execCtx client = .ok data := by
          rcases (move_inv moved).2 with unfinished | ⟨client, finished⟩ | ⟨kind, panicked⟩
          · cases unfinished
          · exact ⟨client, (Thread.finished.inj finished).symm⟩
          · cases panicked
        exact ⟨client, _, data, mapError_ok ended, rfl⟩
      · exact rows row old
  · exact rows

theorem Making.fan {execCtx : ExecuteContext} {ended : Bool} {fan fan' : FanOut} {a : FanAction}
    (making : Making ce host step (.fanOut fan))
    (moves : FanMoves ce host step execCtx ended fan a fan') :
    Making ce host step (.fanOut fan') := by
  obtain ⟨fans, rows, results⟩ := making
  cases moves with
  | exhausts _ _ | takes _ _ _ _ | breaks _ _ | spawns _ _ _ _ | rejects _ _ | fails _ _ _ =>
      refine ⟨fans, rows, ?_⟩
      intro data impossible
      cases impossible
  | skips dispatching _ _ =>
      refine ⟨fans, rows, ?_⟩
      intro data returned
      cases dispatching.symm.trans returned
  | advances here moved => exact ⟨fans, rows.record moved rfl, results⟩
  | settles _ _ _ => exact ⟨fans, rows, results⟩
  | succeeds _ _ _ =>
      refine ⟨fans, rows, ?_⟩
      intro data returned
      obtain rfl := Except.ok.inj (Loop.returned.inj returned)
      exact .fanned fans rows

def AllMaking (ce : CompositeExecutor) (host : Host) (s : Execution) : Prop :=
  ∀ (j : Nat) (part : Part), s.parts[j]? = some part → Making ce host part.step part.work

theorem AllMaking.move (all : AllMaking ce host s) (moves : ExecMoves ce host s a t) :
    AllMaking ce host t := by
  cases moves with
  | cancels | concludes _ _ | joinsStep _ _ _ | joinsBatch _ _ => exact all
  | begins _ _ =>
      intro j part here
      simp only [Execution.begin, List.getElem?_append] at here
      split_ifs at here
      · exact all j part here
      · obtain ⟨step, -, rfl⟩ := List.mem_map.mp (List.mem_of_getElem? here)
        exact runStep_making step s.execCtx
  | @single j part thread next move here work moved =>
      have before := all j part here
      rw [work] at before
      refine Cells.forall_set here all ⟨before.1, ?_⟩
      intro data past
      rcases (move_inv moved).2 with unfinished | ⟨client, rfl⟩ | ⟨kind, rfl⟩
      · rw [unfinished] at past
        cases past
      · exact .single before.1 (Option.some.inj past)
      · cases past
  | fan here work moves =>
      have before := all _ _ here
      rw [work] at before
      exact Cells.forall_set here all (before.fan moves)
  | settles here _ _ _ _ =>
      have before := all _ _ here
      exact Cells.forall_set here all before

theorem run_making {tool : CompositeTool} {params : Object} {ended : Bool}
    {history : List (Execution × ExecAction)}
    (run : Run (Execution.step ce host applyResultStrategy) (execute tool params ended) history s) :
    AllMaking ce host s := by
  apply (run.invariant (motive := AllMaking ce host) _ _).1
  · intro j part impossible
    cases impossible
  · intro s a t all taken
    exact all.move (step_execMoves taken)

/-! ## One step -/

def ResultFits (step : Step) (item : Schema) (result : Object) : Prop :=
  if step.forEach ≠ "" then ∀ byKey, result.obj? "byKey" = some byKey → RowsFit item byKey
  else if step.followPages then ∀ items, result.arr? "data" = some items →
    ∀ v ∈ items, accepts valueView item v = true
  else EnvelopeFits item result

theorem scrubEnvelope_pagedResult (maxPages maxResults : Nat) (resumed : Bool) (fetched : Fetched) :
    scrubEnvelope (pagedResult maxPages maxResults resumed fetched) =
      pagedResult maxPages maxResults resumed fetched := by
  apply scrubEnvelope_plain
  intro entry member
  rcases mem_pagedResult member with rfl | rfl | ⟨-, rfl⟩ | ⟨-, rfl⟩ | ⟨message, rfl⟩ <;> simp

theorem accepts_result_iff {result : Object} (made : Made ce host step result) (item : Schema) :
    accepts valueView (if step.forEach ≠ "" then fanOutSchema item
        else if step.followPages then pagesSchema item step.resumable else envelopeSchema item)
        (.obj (scrubEnvelope result)) = true ↔
      ResultFits step item result := by
  unfold ResultFits
  cases made with
  | fanned fans rows =>
      rw [if_pos fans, if_pos fans, accepts_fanOut_iff]
      constructor
      · rintro fits byKey found
        obtain rfl := Option.some.inj found
        exact fits
      · intro fits
        exact fits _ rfl
  | single alone done =>
      rw [if_neg (not_not.mpr alone), if_neg (not_not.mpr alone)]
      split_ifs with pages
      · obtain ⟨maxPages, maxResults, resumed, fetched, rfl, resumes, offers⟩ :=
          runSingle_pages done pages
        rw [scrubEnvelope_pagedResult, accepts_pages_iff item resumes offers]
        constructor
        · intro fits items found
          obtain rfl := Option.some.inj found
          exact fits
        · intro fits
          exact fits _ rfl
      · rw [accepts_envelope_iff, envelopeFits_scrub]

theorem accepts_step_iff {result : Object} (made : Made ce host step result)
    (op : Option SpecOperation) (required : List String) :
    accepts valueView (buildStepSchema step op required) (.obj (scrubEnvelope result)) = true ↔
      ∀ fields, op.bind SpecOperation.responseFields = some fields →
        ResultFits step (fieldPropertiesSchema fields required) result := by
  unfold buildStepSchema
  cases op.bind SpecOperation.responseFields with
  | none =>
      constructor
      · intro _ fields impossible
        cases impossible
      · intro _
        exact (accepts_typed_object _).mpr ⟨_, rfl⟩
  | some fields =>
      dsimp only
      rw [accepts_result_iff made]
      constructor
      · intro fits _ same
        exact Option.some.inj same ▸ fits
      · intro fits
        exact fits fields rfl

/-- A call that follows pages answers an array, and the schema of a row asks for an object. -/
theorem fanned_pages_iff {result : Object} (made : Made ce host step result) (fans : step.forEach ≠ "")
    (pages : step.followPages = true) (fields : List (String × String)) (required : List String) :
    ResultFits step (fieldPropertiesSchema fields required) result ↔ result.obj? "byKey" = some [] := by
  unfold ResultFits
  rw [if_pos fans]
  cases made with
  | single alone _ => exact absurd alone fans
  | @fanned byKey _ _ rows =>
      constructor
      · intro fits
        cases byKey with
        | nil => rfl
        | cons row rest =>
            exfalso
            obtain ⟨envelope, same, ⟨v, found, accepted⟩, -⟩ := fits _ rfl row (.head _)
            obtain ⟨client, execCtx, data, done, own⟩ := rows row (.head _)
            obtain ⟨_, _, _, fetched, rfl, -, -⟩ := runSingle_pages done pages
            obtain rfl := Value.obj.inj (same.symm.trans own)
            obtain rfl := Option.some.inj (found.symm.trans rfl)
            exact nomatch ((accepts_object_iff rfl rfl rfl).mp accepted).1
      · intro empty other found row member
        obtain rfl := Option.some.inj (empty.symm.trans found)
        cases member

/-! ## Whole results -/

section Returned

variable {tool : CompositeTool} {params : Object} {ended : Bool}
variable {history : List (Execution × ExecAction)} {out : Object}

structure Delivered (ce : CompositeExecutor) (host : Host) (tool : CompositeTool) (s : Execution) :
    Prop where
  steps : ∀ step ∈ tool.steps, ∃ result,
    s.stepResults.lookup step.id = some result ∧ Made ce host step result
  only : ∀ id result, s.stepResults.lookup id = some result → id ∈ tool.steps.map Step.id

theorem run_delivered (loaded : Loaded tool.steps)
    (run : Run (Execution.step ce host applyResultStrategy) (execute tool params ended) history s)
    (returned : s.phase = .returned (.ok out)) : Delivered ce host tool s := by
  have orderly : Orderly tool s := by
    apply (run.invariant orderly_start _).1
    intro _ _ _ orderly taken
    exact (orderly.move loaded (step_execMoves taken)).orderly
  obtain ⟨n, stored, progress⟩ := orderly.stored
  rw [returned] at progress
  obtain ⟨rfl, empty⟩ := progress
  have order := orderly.order
  rw [empty, List.flatMap_nil, List.append_nil] at order
  refine ⟨?_, ?_⟩
  · intro step member
    rw [← order] at member
    obtain ⟨part, inside, rfl⟩ := List.mem_map.mp member
    obtain ⟨data, past, entry⟩ := stored.all inside
    obtain ⟨j, here⟩ := List.mem_iff_getElem?.mp inside
    exact ⟨data, (Assoc.lookup_eq_some_iff (orderly.nodup loaded)).mpr entry,
      (run_making run j part here).made past⟩
  · intro id result found
    obtain ⟨part, inside, own, -⟩ := stored.entry (Assoc.mem_of_lookup found)
    rw [← order, List.map_map]
    exact List.mem_map.mpr ⟨part, inside, own⟩

structure Laid (tool : CompositeTool) (stepResults : StepResults) (out : Object) : Prop where
  strategy : tool.result.strategy = "collect" ∨ tool.result.strategy = "postProcess"
  steps : ∀ id result, Shows tool.result id → stepResults.lookup id = some result →
    out.lookup id = some (.obj (scrubEnvelope result))
  summary : tool.result.strategy = "postProcess" → ∃ fields, out.lookup "summary" = some (.obj fields)
  only : ∀ id v, out.lookup id = some v → (Shows tool.result id ∧ ∃ result,
    stepResults.lookup id = some result) ∨ (tool.result.strategy = "postProcess" ∧ id = "summary")

theorem laid_of_ok {registry : Registry} {stepResults : StepResults}
    (done : BrokerMcp.Composite.applyResultStrategy registry tool.result stepResults = .ok out)
    (keeps : tool.result.strategy = "postProcess" → ∀ summary left,
      registry.apply tool.result.postProcess stepResults = .ok (summary, left) → left = stepResults) :
    Laid tool stepResults out := by
  obtain ⟨slots, left, leaves, read, placed⟩ := applyResultStrategy_ok done
  have same : left = stepResults := by
    cases leaves with
    | collect _ => rfl
    | postProcess processes applied _ => exact keeps processes _ _ applied
  subst same
  refine ⟨?_, ?_, ?_, ?_⟩
  · cases leaves with
    | collect collects => exact .inl collects
    | postProcess processes _ _ => exact .inr processes
  · intro id result shows found
    exact shown_step (read id) ((placed id).1 shows) found
  · intro processes
    cases leaves with
    | collect collects =>
        rw [collects] at processes
        exact absurd processes (by decide)
    | postProcess _ _ shown => exact ⟨_, shown⟩
  · intro id v found
    rw [read] at found
    obtain ⟨slot, here, -⟩ := Option.map_eq_some_iff.mp found
    by_cases shows : Shows tool.result id
    · rw [(placed id).1 shows] at here
      obtain ⟨result, present, -⟩ := Option.map_eq_some_iff.mp here
      exact .inl ⟨shows, result, present⟩
    · exact .inr ((placed id).2 shows (Option.isSome_of_eq_some here))

theorem Laid.shows {stepResults : StepResults} (laid : Laid tool stepResults out)
    (reserved : tool.result.strategy = "postProcess" → "summary" ∉ tool.steps.map Step.id)
    (whole : tool.result.strategy = "postProcess" → tool.result.omitRawSteps = false) {step : Step}
    (member : step ∈ tool.steps) : Shows tool.result step.id := by
  rcases laid.strategy with collects | processes
  · exact .inl collects
  · refine .inr ⟨whole processes, fun named => reserved processes ?_⟩
    exact List.mem_map.mpr ⟨step, member, named⟩

theorem Laid.whole {stepResults : StepResults} (laid : Laid tool stepResults out) (some : tool.steps ≠ [])
    (reserved : tool.result.strategy = "postProcess" → "summary" ∉ tool.steps.map Step.id)
    (present : ∀ id ∈ tool.steps.map Step.id, (out.lookup id).isSome = true)
    (processes : tool.result.strategy = "postProcess") : tool.result.omitRawSteps = false := by
  obtain ⟨step, member⟩ := List.exists_mem_of_ne_nil _ some
  have inside : step.id ∈ tool.steps.map Step.id := List.mem_map.mpr ⟨step, member, rfl⟩
  obtain ⟨v, found⟩ := Option.isSome_iff_exists.mp (present step.id inside)
  rcases laid.only step.id v found with ⟨collects | ⟨whole, -⟩, -⟩ | ⟨-, named⟩
  · exact absurd (collects.symm.trans processes) (by decide)
  · exact whole
  · exact absurd (named ▸ inside) (reserved processes)

/-- The strict schema says of the result of a run what it says of each step, and wants all steps. -/
theorem Delivered.accepts_iff (delivered : Delivered ce host tool s)
    (laid : Laid tool s.stepResults out) (some : tool.steps ≠ [])
    (reserved : tool.result.strategy = "postProcess" → "summary" ∉ tool.steps.map Step.id)
    (operations : List (String × SpecOperation)) (requiredFields : List (String × List String)) :
    accepts valueView (buildStrictOutputSchema tool operations requiredFields) (.obj out) = true ↔
      (tool.result.strategy = "postProcess" → tool.result.omitRawSteps = false) ∧
      ∀ step ∈ tool.steps, ∀ result, s.stepResults.lookup step.id = .some result →
        accepts valueView (buildStepSchema step (operations.lookup step.operation)
          ((requiredFields.lookup step.id).getD [])) (.obj (scrubEnvelope result)) = true := by
  rw [accepts_object_iff rfl rfl rfl]
  constructor
  · rintro ⟨-, fits⟩
    have whole := laid.whole some reserved fun id inside =>
      fits.required id (List.mem_append_left _ inside)
    refine ⟨whole, fun step member result found => ?_⟩
    have shown := laid.steps step.id result (laid.shows reserved whole member) found
    apply fits.properties (step.id, _) _ _ shown
    exact List.mem_append_left _ (List.mem_map.mpr ⟨step, member, rfl⟩)
  · rintro ⟨whole, each⟩
    have shown {step : Step} (member : step ∈ tool.steps) : ∃ result,
        s.stepResults.lookup step.id = .some result ∧
          out.lookup step.id = .some (.obj (scrubEnvelope result)) := by
      obtain ⟨result, present, -⟩ := delivered.steps step member
      exact ⟨result, present, laid.steps step.id result (laid.shows reserved whole member) present⟩
    refine ⟨rfl, ⟨?_, ?_, ?_, ?_⟩⟩
    · intro property declared y found
      rcases List.mem_append.mp declared with named | named
      · obtain ⟨step, member, rfl⟩ := List.mem_map.mp named
        obtain ⟨result, present, shown⟩ := shown member
        obtain rfl := Option.some.inj (shown.symm.trans found)
        exact each step member result present
      · split_ifs at named with processes
        · obtain rfl := List.mem_singleton.mp named
          obtain ⟨fields, shown⟩ := laid.summary processes
          obtain rfl := Option.some.inj (shown.symm.trans found)
          exact (accepts_typed_object _).mpr ⟨fields, rfl⟩
        · cases named
    · intro name asked
      rcases List.mem_append.mp asked with named | named
      · obtain ⟨step, member, rfl⟩ := List.mem_map.mp named
        obtain ⟨result, -, shown⟩ := shown member
        exact Option.isSome_of_eq_some shown
      · split_ifs at named with processes
        · obtain rfl := List.mem_singleton.mp named
          obtain ⟨fields, shown⟩ := laid.summary processes
          exact Option.isSome_of_eq_some shown
        · cases named
    · intro _ name member
      obtain ⟨v, found⟩ := Assoc.mem_keys_iff.mp member
      simp only [buildStrictOutputSchema, List.map_append, List.map_map]
      rcases laid.only name v found with ⟨-, result, present⟩ | ⟨processes, rfl⟩
      · exact List.mem_append_left _ (delivered.only name result present)
      · apply List.mem_append_right
        rw [if_pos processes]
        exact .head _
    · intro rest impossible
      cases impossible

theorem validateTool_steps {parse : String → String → Option String} {description : String}
    (accepted : validateTool parse description tool = .ok ()) : tool.steps ≠ [] := by
  intro none
  unfold validateTool at accepted
  split_ifs at accepted

/-- The result of a run is refused for what a broker has answered, or because the tool omits its
steps. A fan-out over paginated calls is refused as soon as it has a row. -/
theorem strict_accepts_iff (parse : String → String → Option String) (description : String)
    (tool : CompositeTool) (accepted : validateTool parse description tool = .ok ())
    (ce : CompositeExecutor) (host : Host) (registry : Registry) (params : Object) (ended : Bool)
    {history : List (Execution × ExecAction)} {s : Execution}
    (run : Run (Execution.step ce host
      (BrokerMcp.Composite.applyResultStrategy registry tool.result)) (execute tool params ended)
      history s)
    {out : Object} (returned : s.phase = .returned (.ok out))
    (keeps : tool.result.strategy = "postProcess" → ∀ summary left,
      registry.apply tool.result.postProcess s.stepResults = .ok (summary, left) →
      left = s.stepResults)
    (operations : List (String × SpecOperation)) (requiredFields : List (String × List String)) :
    (accepts valueView (buildStrictOutputSchema tool operations requiredFields) (.obj out) = true ↔
      (tool.result.strategy = "postProcess" → tool.result.omitRawSteps = false) ∧
      ∀ step ∈ tool.steps, ∀ fields,
        (operations.lookup step.operation).bind SpecOperation.responseFields = some fields →
        ∃ result, s.stepResults.lookup step.id = some result ∧ ResultFits step
          (fieldPropertiesSchema fields ((requiredFields.lookup step.id).getD [])) result) ∧
    ∀ step ∈ tool.steps, step.forEach ≠ "" → step.followPages = true →
      ∀ result fields required, s.stepResults.lookup step.id = some result →
        (ResultFits step (fieldPropertiesSchema fields required) result ↔
          result.obj? "byKey" = some []) := by
  have delivered := run_delivered (validateTool_loaded accepted) run returned
  have laid := laid_of_ok (run_concluded run out returned) keeps
  have strict := delivered.accepts_iff laid (validateTool_steps accepted)
    (validateTool_summary accepted) operations requiredFields
  refine ⟨strict.trans (and_congr_right fun _ => forall₂_congr fun step member => ?_), ?_⟩
  · obtain ⟨result, present, made⟩ := delivered.steps step member
    rw [present]
    constructor
    · intro each fields resolved
      exact ⟨result, rfl, (accepts_step_iff made _ _).mp (each result rfl) fields resolved⟩
    · rintro fits other same
      obtain rfl := Option.some.inj same
      refine (accepts_step_iff made _ _).mpr fun fields resolved => ?_
      obtain ⟨other, same, fits⟩ := fits fields resolved
      exact Option.some.inj same ▸ fits
  · intro step member fans pages result fields required present
    obtain ⟨other, here, made⟩ := delivered.steps step member
    obtain rfl := Option.some.inj (here.symm.trans present)
    exact fanned_pages_iff made fans pages fields required

end Returned

/-! ## Listing message VPNs -/

def collectVpns : CompositeTool := { listVpns with result := ⟨"collect", "", false⟩ }

def vpnOperations : List (String × SpecOperation) :=
  [("monitor/getMsgVpns", ⟨⟨⟨"getMsgVpns", "GET"⟩, [⟨"count", "query"⟩, ⟨"select", "query"⟩], none⟩,
    some [("msgVpnName", "string"), ("enabled", "boolean"), ("msgVpnConnections", "integer")]⟩)]

def collecting : Execution → ExecAction → Option Execution :=
  Execution.step vpnExecutor vpnHost
    (BrokerMcp.Composite.applyResultStrategy [] collectVpns.result)

theorem strict_accepts_collectVpns : ∃ history s out,
    Run collecting (execute collectVpns [] false) history s ∧ s.phase = .returned (.ok out) ∧
    accepts valueView (buildStrictOutputSchema collectVpns vpnOperations [("vpns", ["msgVpnName"])])
      (.obj out) = true := by
  have accepted : validateTool (fun _ _ => none) "Lists all Message VPNs." collectVpns = .ok () := rfl
  obtain ⟨s, out, result, done, returned, stored, rows⟩ : ∃ s out result,
      exec collecting (execute collectVpns [] false) listing = some s ∧
      s.phase = .returned (.ok out) ∧ s.stepResults.lookup "vpns" = some result ∧
      result.arr? "data" = some [vpnRow "default" 2] := ⟨_, _, _, rfl, rfl, rfl, rfl⟩
  have run := run_of_exec done
  refine ⟨_, s, out, run, returned, ?_⟩
  refine (strict_accepts_iff (fun _ _ => none) "Lists all Message VPNs." collectVpns accepted
    vpnExecutor vpnHost [] [] false run returned (fun processes => absurd processes (by decide))
    vpnOperations [("vpns", ["msgVpnName"])]).1.mpr ⟨fun processes => absurd processes (by decide), ?_⟩
  intro step member fields resolved
  have member : step = vpnsStep ∨ step = realClients := by
    simpa [collectVpns, listVpns] using member
  rcases member with rfl | rfl
  · obtain rfl := Option.some.inj resolved
    refine ⟨result, stored, ?_⟩
    intro items found v inside
    obtain rfl := Option.some.inj (rows.symm.trans found)
    obtain rfl := List.mem_singleton.mp inside
    rfl
  · cases resolved

end BrokerMcp.Proof.Composite
