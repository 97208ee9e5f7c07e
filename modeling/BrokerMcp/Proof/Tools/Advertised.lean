import BrokerMcp.Library.Utf8
import BrokerMcp.Proof.Composite.Bounded
import BrokerMcp.Proof.Composite.Conforming
import BrokerMcp.Proof.Composite.Infeasible
import BrokerMcp.Proof.Tools.Deleted
import BrokerMcp.Proof.Tools.Signals
import BrokerMcp.Tools.OutputSchema

namespace BrokerMcp.Proof.Tools
open BrokerMcp.Composite BrokerMcp.Tools JsonSchema
open BrokerMcp.Proof.Composite

section Cut

variable {out : Object} {c : BoundCandidate} {limit : Nat} {hasSummary resumable : Bool}

theorem trimmedStep_message (c : BoundCandidate) (limit : Nat) (hasSummary resumable : Bool) :
    ∃ note, (trimmedStep c limit hasSummary resumable).lookup "truncatedMessage" =
      some (.str note) := by
  simp [trimmedStep, Assoc.lookup_put]

theorem mem_keys_trimmedStep {key : String}
    (member : key ∈ (trimmedStep c limit hasSummary resumable).map Prod.fst) :
    key ∈ ["data", "omittedItems", "truncated", "truncatedMessage"] ∨ key ∈ c.step.map Prod.fst := by
  obtain ⟨entry, inside, rfl⟩ := List.mem_map.mp member
  unfold trimmedStep at inside
  rcases Assoc.mem_of_mem_put inside with rfl | inside
  · simp
  rcases Assoc.mem_of_mem_put inside with rfl | inside
  · simp
  rcases Assoc.mem_of_mem_put inside with rfl | inside
  · simp
  rcases Assoc.mem_of_mem_put inside with rfl | inside
  · simp
  exact .inr (List.mem_map.mpr ⟨entry, (Assoc.mem_drop_iff.mp inside).1, rfl⟩)

theorem accepts_pages_trimmed {item : Schema} {pages : Bool} (drawn : Drawn out c)
    (cut : c.keep < c.items.length)
    (accepted : accepts valueView (pagesSchema item pages) (.obj c.step) = true) :
    accepts valueView (pagesSchema item pages)
      (.obj (trimmedStep c limit hasSummary resumable)) = true := by
  have fits := ((accepts_object_iff rfl rfl rfl).mp accepted).2
  have shortened := trimmedStep_shortened drawn cut limit hasSummary resumable
  obtain ⟨note, message⟩ := trimmedStep_message c limit hasSummary resumable
  have rows := trimmedStep_data c limit hasSummary resumable
  rw [accepts_object_iff rfl rfl rfl]
  refine ⟨rfl, ⟨?_, ?_, ?_, ?_⟩⟩
  · rintro ⟨name, schema⟩ declared y found
    by_cases touched : name ∈ ["data", "omittedItems", "truncated", "nextCursor", "truncatedMessage"]
    · simp only [List.mem_cons, List.not_mem_nil, or_false] at touched
      rcases touched with rfl | rfl | rfl | rfl | rfl
      · have own : schema = { type := some "array", items := some item } := by
          cases pages <;> simpa [pagesSchema] using declared
        obtain rfl := Option.some.inj ((Object.arr?_eq_some.mp rows).symm.trans found)
        have all := fits.properties (_, schema) declared _ (Object.arr?_eq_some.mp drawn.items)
        rw [own, accepts_array_iff] at all ⊢
        intro v member
        exact all v (List.mem_of_mem_take member)
      · have own : schema = typed "integer" := by cases pages <;> simpa [pagesSchema] using declared
        obtain rfl := Option.some.inj (shortened.omittedItems.symm.trans found)
        exact own ▸ accepts_type "integer"
      · have own : schema = typed "boolean" := by cases pages <;> simpa [pagesSchema] using declared
        obtain rfl := Option.some.inj (shortened.truncated.symm.trans found)
        exact own ▸ accepts_type "boolean"
      · cases shortened.nextCursor.symm.trans found
      · have own : schema = typed "string" := by cases pages <;> simpa [pagesSchema] using declared
        obtain rfl := Option.some.inj (message.symm.trans found)
        exact own ▸ accepts_type "string"
    · rw [valueView, shortened.others name touched] at found
      exact fits.properties _ declared y found
  · intro name asked
    simp only [pagesSchema, List.mem_cons, List.not_mem_nil, or_false] at asked
    rcases asked with rfl | rfl
    · exact Option.isSome_of_eq_some (Object.arr?_eq_some.mp rows)
    · exact Option.isSome_of_eq_some shortened.truncated
  · intro _ name member
    rcases mem_keys_trimmedStep member with own | old
    · simp only [List.mem_cons, List.not_mem_nil, or_false] at own
      rcases own with rfl | rfl | rfl | rfl <;> simp [pagesSchema]
    · exact fits.closed rfl name old
  · intro rest impossible
    cases impossible

/-- Only a step of rows has rows to lose: the other schemas have no array under `data`. -/
theorem accepts_step_trimmed {step : Step} {op : Option SpecOperation} {required : List String}
    (drawn : Drawn out c) (cut : c.keep < c.items.length)
    (accepted : accepts valueView (buildStepSchema step op required) (.obj c.step) = true) :
    accepts valueView (buildStepSchema step op required)
      (.obj (trimmedStep c limit hasSummary resumable)) = true := by
  have rows := Object.arr?_eq_some.mp drawn.items
  unfold buildStepSchema at accepted ⊢
  split at accepted
  · exact (accepts_typed_object _).mpr ⟨_, rfl⟩
  · dsimp only at accepted ⊢
    split_ifs at accepted ⊢
    · have fits := ((accepts_object_iff rfl rfl rfl).mp accepted).2
      have named := fits.closed rfl "data" (Assoc.mem_keys_iff.mpr ⟨_, rows⟩)
      exact absurd named (by simp [fanOutSchema])
    · exact accepts_pages_trimmed drawn cut accepted
    · obtain ⟨v, found, accepted⟩ := ((accepts_envelope_iff _ _).mp accepted).data
      obtain rfl := Option.some.inj (rows.symm.trans found)
      have isObject := ((accepts_object_iff rfl rfl rfl).mp accepted).1
      cases isObject

end Cut

section Results

variable (meter : Meter) (tool : CompositeTool) (operations : List (String × SpecOperation))
variable {out : Object} {size limit : Nat}

structure CutTo (out out' : Object) : Prop where
  keys : out'.map Prod.fst = out.map Prod.fst
  members : ∀ entry ∈ out', entry ∈ out ∨ ∃ fields, entry.2 = .obj fields
  steps : ∀ id, out'.lookup id = out.lookup id ∨ ∃ c limit hasSummary resumable, Drawn out c ∧
    c.id = id ∧ c.keep < c.items.length ∧
    out'.lookup id = some (.obj (trimmedStep c limit hasSummary resumable))

theorem build_members {hasSummary : Bool} {resumable : String → Bool} {cands : List BoundCandidate}
    {entry : String × Value} (member : entry ∈ build out limit hasSummary resumable cands) :
    entry ∈ out ∨ ∃ fields, entry.2 = .obj fields := by
  induction cands generalizing out with
  | nil => exact .inl member
  | cons c rest ih =>
      rw [build_cons] at member
      rcases ih member with old | own
      · split_ifs at old
        · rcases Assoc.mem_of_mem_put old with rfl | old
          · exact .inr ⟨_, rfl⟩
          · exact .inl old
        · exact .inl old
      · exact .inr own

theorem boundResponse_cutTo (strategy : ResultStrategy) (resumable : String → Bool) :
    CutTo out (boundResponse meter strategy resumable out size limit).1 where
  keys := by
    rcases boundResponse_cases meter strategy resumable out size limit with
      ⟨-, same⟩ | ⟨-, same⟩ | ⟨-, cands, trims, -, same⟩
    · rw [same]
    · rw [same]
    · rw [same]
      apply build_keys
      intro c member
      exact Assoc.mem_keys_iff.mpr ⟨_, Object.obj?_eq_some.mp (trims.drawn c member).step⟩
  members := by
    intro entry member
    rcases boundResponse_cases meter strategy resumable out size limit with
      ⟨-, same⟩ | ⟨-, same⟩ | ⟨-, cands, -, -, same⟩
    · rw [same] at member
      exact .inl member
    · rw [same] at member
      exact .inl member
    · rw [same] at member
      exact build_members member
  steps := by
    intro id
    rcases boundResponse_trimmed meter strategy resumable out size limit id with
      same | ⟨c, drawn, own, cut, found⟩
    · exact .inl same
    · exact .inr ⟨c, _, _, _, drawn, own, cut, found⟩

variable {tool operations} {out' : Object} {required : List (String × List String)}

theorem CutTo.isSome (cut : CutTo out out') (id : String) :
    (out'.lookup id).isSome = (out.lookup id).isSome := by
  have same : id ∈ out'.map Prod.fst ↔ id ∈ out.map Prod.fst := by rw [cut.keys]
  rw [Assoc.mem_keys_iff, Assoc.mem_keys_iff] at same
  rw [Bool.eq_iff_iff, Option.isSome_iff_exists, Option.isSome_iff_exists]
  exact same

theorem CutTo.strict (cut : CutTo out out')
    (accepted : accepts valueView (buildStrictOutputSchema tool operations required) (.obj out) =
      true) :
    accepts valueView (buildStrictOutputSchema tool operations required) (.obj out') = true := by
  have fits := ((accepts_object_iff rfl rfl rfl).mp accepted).2
  rw [accepts_object_iff rfl rfl rfl]
  refine ⟨rfl, ⟨?_, ?_, ?_, ?_⟩⟩
  · rintro ⟨id, schema⟩ declared y found
    rcases cut.steps id with same | ⟨c, _, _, _, drawn, rfl, fewer, trimmed⟩
    · exact fits.properties _ declared y (same ▸ found)
    · obtain rfl := Option.some.inj (trimmed.symm.trans found)
      have before := fits.properties _ declared _ (Object.obj?_eq_some.mp drawn.step)
      rcases List.mem_append.mp declared with named | named
      · obtain ⟨step, -, same⟩ := List.mem_map.mp named
        obtain ⟨-, rfl⟩ := Prod.mk.inj same
        exact accepts_step_trimmed drawn fewer before
      · split_ifs at named
        · obtain ⟨-, rfl⟩ := Prod.mk.inj (List.mem_singleton.mp named)
          exact (accepts_typed_object _).mpr ⟨_, rfl⟩
        · cases named
  · intro name asked
    exact (cut.isSome name).trans (fits.required name asked)
  · intro _ name member
    have same : valueView.names (.obj out') = valueView.names (.obj out) := cut.keys
    exact fits.closed rfl name (same ▸ member)
  · intro rest impossible
    cases impossible

theorem accepts_stepKeyed_iff :
    accepts valueView stepKeyedEnvelopeSchema (.obj out) = true ↔
      ∀ entry ∈ out, ∃ fields, entry.2 = .obj fields := by
  rw [accepts_object_iff rfl rfl rfl]
  constructor
  · rintro ⟨-, fits⟩ entry member
    exact (accepts_typed_object _).mp (fits.additional _ rfl entry member List.not_mem_nil)
  · intro objects
    refine ⟨rfl, ⟨?_, ?_, ?_, ?_⟩⟩
    · intro property impossible
      cases impossible
    · intro name impossible
      cases impossible
    · intro impossible
      cases impossible
    · intro rest present entry member _
      obtain rfl := Option.some.inj present
      exact (accepts_typed_object _).mpr (objects entry member)

theorem CutTo.stepKeyed (cut : CutTo out out')
    (accepted : accepts valueView stepKeyedEnvelopeSchema (.obj out) = true) :
    accepts valueView stepKeyedEnvelopeSchema (.obj out') = true := by
  rw [accepts_stepKeyed_iff] at accepted ⊢
  intro entry member
  rcases cut.members entry member with old | own
  · exact accepted entry old
  · exact own

theorem strict_objects
    (accepted : accepts valueView (buildStrictOutputSchema tool operations required) (.obj out) =
      true) {id : String} {v : Value} (found : out.lookup id = some v) :
    ∃ fields, v = .obj fields := by
  have fits := ((accepts_object_iff rfl rfl rfl).mp accepted).2
  have named := fits.closed rfl id (Assoc.mem_keys_iff.mpr ⟨v, found⟩)
  obtain ⟨⟨id, schema⟩, declared, rfl⟩ := List.mem_map.mp named
  have inside := fits.properties _ declared v found
  apply (kind_object_iff v).mp
  rcases List.mem_append.mp declared with step | summary
  · obtain ⟨step, -, same⟩ := List.mem_map.mp step
    obtain ⟨-, rfl⟩ := Prod.mk.inj same
    unfold buildStepSchema at inside
    dsimp only at inside
    split at inside
    · exact ((accepts_object_iff rfl rfl rfl).mp inside).1
    · split_ifs at inside
      · exact ((accepts_object_iff rfl rfl rfl).mp inside).1
      · exact ((accepts_object_iff rfl rfl rfl).mp inside).1
      · exact ((accepts_object_iff rfl rfl rfl).mp inside).1
  · split_ifs at summary
    · obtain ⟨-, rfl⟩ := Prod.mk.inj (List.mem_singleton.mp summary)
      exact ((accepts_object_iff rfl rfl rfl).mp inside).1
    · cases summary

theorem outcome_plain
    (accepted : accepts valueView desiredStateOutcomeSchema (.obj out) = true) {id : String}
    {v : Value} (found : out.lookup id = some v) : ¬ ∃ fields, v = .obj fields := by
  have fits := ((accepts_object_iff rfl rfl rfl).mp accepted).2
  have named := fits.closed rfl id (Assoc.mem_keys_iff.mpr ⟨v, found⟩)
  obtain ⟨⟨id, schema⟩, declared, rfl⟩ := List.mem_map.mp named
  have inside := ((accepts_iff _ _ _).mp (fits.properties _ declared v found)).type
  rintro ⟨fields, rfl⟩
  simp only [desiredStateOutcomeSchema, List.mem_cons, Prod.mk.injEq, List.not_mem_nil,
    or_false] at declared
  rcases declared with ⟨-, rfl⟩ | ⟨-, rfl⟩ | ⟨-, rfl⟩ | ⟨-, rfl⟩ <;>
    exact absurd (inside _ rfl) (by simp [valueView, hasType])

theorem strict_not_outcome
    (strict : accepts valueView (buildStrictOutputSchema tool operations required) (.obj out) = true) :
    accepts valueView desiredStateOutcomeSchema (.obj out) = false := by
  by_contra both
  have outcome := eq_true_of_ne_false both
  have fits := ((accepts_object_iff rfl rfl rfl).mp outcome).2
  obtain ⟨v, found⟩ := Option.isSome_iff_exists.mp (fits.required "outcome" (.head _))
  exact outcome_plain outcome found (strict_objects strict found)

theorem CutTo.outcome (cut : CutTo out out')
    (accepted : accepts valueView desiredStateOutcomeSchema (.obj out) = true) :
    accepts valueView desiredStateOutcomeSchema (.obj out') = true := by
  have fits := ((accepts_object_iff rfl rfl rfl).mp accepted).2
  have same (id : String) : out'.lookup id = out.lookup id := by
    rcases cut.steps id with same | ⟨c, _, _, _, drawn, rfl, -, -⟩
    · exact same
    · exact absurd ⟨_, rfl⟩ (outcome_plain accepted (Object.obj?_eq_some.mp drawn.step))
  rw [accepts_object_iff rfl rfl rfl]
  refine ⟨rfl, ⟨?_, ?_, ?_, ?_⟩⟩
  · intro property declared y found
    exact fits.properties property declared y ((same property.1).symm.trans found)
  · intro name asked
    exact (cut.isSome name).trans (fits.required name asked)
  · intro _ name member
    have keys : valueView.names (.obj out') = valueView.names (.obj out) := cut.keys
    exact fits.closed rfl name (keys ▸ member)
  · intro rest impossible
    cases impossible

theorem CutTo.advertised (cut : CutTo out out')
    (accepted : accepts valueView (outputSchema tool operations) (.obj out) = true) :
    accepts valueView (outputSchema tool operations) (.obj out') = true := by
  unfold outputSchema at accepted ⊢
  dsimp only at accepted ⊢
  split_ifs at accepted ⊢
  · exact cut.stepKeyed accepted
  · obtain ⟨-, one⟩ := (accepts_either_iff _ _).mp accepted
    refine (accepts_either_iff _ _).mpr ⟨rfl, ?_⟩
    cases strict : accepts valueView
        (buildStrictOutputSchema tool operations (identifierFields tool)) (.obj out) with
    | true => rw [cut.strict strict, strict_not_outcome (cut.strict strict)]; decide
    | false =>
        have outcome : accepts valueView desiredStateOutcomeSchema (.obj out') = true :=
          cut.outcome (eq_true_of_ne_false fun none => one (strict.trans none.symm))
        intro same
        have both := strict_not_outcome (same.trans outcome)
        exact absurd (outcome.symm.trans both) (by decide)
  · exact cut.strict accepted

theorem outcome_accepted (outcome : DesiredStateOutcome) (message : String) :
    accepts valueView desiredStateOutcomeSchema (.obj (Dispatch.desiredContent outcome message)) =
      true := by
  unfold Dispatch.desiredContent
  cases outcome.outcome <;> rfl

theorem desired_accepted_iff (outcome : DesiredStateOutcome) (message : String) :
    accepts valueView (outputSchema tool operations)
        (.obj (Dispatch.desiredContent outcome message)) = true ↔
      callsConfigOrActionOperation tool = true ∧ hasDesiredStateEligibleStep tool operations = true := by
  have accepted := outcome_accepted outcome message
  have refused : accepts valueView (buildStrictOutputSchema tool operations (identifierFields tool))
      (.obj (Dispatch.desiredContent outcome message)) = false := by
    by_contra strict
    have both := strict_not_outcome (eq_true_of_ne_false strict)
    exact absurd (accepted.symm.trans both) (by decide)
  unfold outputSchema
  dsimp only
  split_ifs with reads eligible
  · constructor
    · intro keyed
      obtain ⟨v, found⟩ := Option.isSome_iff_exists.mp
        ((((accepts_object_iff rfl rfl rfl).mp accepted).2).required "outcome" (.head _))
      have objects := accepts_stepKeyed_iff.mp keyed _ (Assoc.mem_of_lookup found)
      exact absurd objects (outcome_plain accepted found)
    · rintro ⟨writes, -⟩
      rw [writes] at reads
      cases reads
  · rw [accepts_either_iff, refused, accepted]
    exact ⟨fun _ => ⟨by simpa using reads, eligible⟩, fun _ => ⟨rfl, by decide⟩⟩
  · rw [refused]
    exact ⟨fun strict => (nomatch strict), fun both => absurd both.2 eligible⟩

theorem collected_objects {registry : Registry} {strategy : ResultStrategy}
    {stepResults : StepResults}
    (done : applyResultStrategy registry strategy stepResults = .ok out) :
    ∀ entry ∈ out, ∃ fields, entry.2 = .obj fields := by
  unfold applyResultStrategy at done
  obtain ⟨⟨slots, left⟩, -, done⟩ := bind_ok done
  obtain rfl := Except.ok.inj done
  intro entry member
  obtain ⟨⟨id, slot⟩, -, rfl⟩ := List.mem_map.mp member
  cases slot <;> exact ⟨_, rfl⟩

end Results

open BrokerMcp.Tools.Dispatch

variable {m : ToolManager} {validator : Validator} {meter : Meter}
variable {operations : List (String × SpecOperation)} {tool : CompositeTool} {rt : RegisteredTool}

theorem boundContent_cutTo (meter : Meter) (tool : CompositeTool) (limit size : Nat)
    (content : Object) :
    CompositeToolHandler.boundResponse meter tool limit content size = .unbounded ∨
    CompositeToolHandler.boundResponse meter tool limit content size = .untouched ∨
    ∃ trimmed, CompositeToolHandler.boundResponse meter tool limit content size =
      .truncated trimmed ∧ CutTo content trimmed := by
  unfold CompositeToolHandler.boundResponse
  dsimp only
  split_ifs
  · exact .inr (.inr ⟨_, rfl, boundResponse_cutTo meter tool.result _⟩)
  · exact .inl rfl
  · exact .inr (.inl rfl)

/-- What is asked of `encoding/json` and `gojsonschema`: every document has a text, in which the compiled
schema finds a violation exactly if the schema does not accept the document. -/
structure Compiles (validator : Validator) (schema : Schema) : Prop where
  marshals : ∀ document, ∃ docJSON, validator.marshal document = .ok docJSON
  validates : ∀ document docJSON, validator.marshal document = .ok docJSON →
    ∃ violations, validator.validate schema docJSON = .ok violations ∧
      (violations = [] ↔ accepts valueView schema (.obj document) = true)

theorem validate_accepted {schema : Schema} (compiles : Compiles validator schema)
    {document : Object} (errPrefix : String)
    (accepted : accepts valueView schema (.obj document) = true) :
    ∃ docJSON, validator.marshal document = .ok docJSON ∧
      validateAgainstCompiledSchema validator document schema errPrefix = .ok docJSON := by
  obtain ⟨docJSON, done⟩ := compiles.marshals document
  obtain ⟨violations, found, valid⟩ := compiles.validates document docJSON done
  refine ⟨docJSON, done, ?_⟩
  simp [validateAgainstCompiledSchema, formatValidationResult, done, found, valid.mpr accepted]

theorem validate_refused {schema : Schema} (compiles : Compiles validator schema)
    {document : Object} (errPrefix : String)
    (refused : accepts valueView schema (.obj document) = false) :
    ∃ err, validateAgainstCompiledSchema validator document schema errPrefix = .error err := by
  obtain ⟨docJSON, done⟩ := compiles.marshals document
  obtain ⟨violations, found, valid⟩ := compiles.validates document docJSON done
  have some : violations ≠ [] := by
    intro none
    rw [valid.mp none] at refused
    cases refused
  simp [validateAgainstCompiledSchema, formatValidationResult, done, found, some]

theorem boundResult_truncated (compiles : Compiles validator (outputSchema tool operations))
    (indents : ∀ document docJSON, validator.marshal document = .ok docJSON →
      ∃ text, m.indent docJSON = .ok text) {content trimmed : Object} (cut : CutTo content trimmed)
    (accepted : accepts valueView (outputSchema tool operations) (.obj content) = true)
    (text : List UInt8) :
    ∃ shorter, boundResult m (compositeTool validator meter m.responseCap operations tool rt) content
        text (.truncated trimmed) = .built (.content trimmed shorter false) [.responseTruncated] ∧
      accepts valueView (outputSchema tool operations) (.obj trimmed) = true := by
  have kept := cut.advertised accepted
  obtain ⟨compact, done, valid⟩ := validate_accepted compiles "output validation failed" kept
  obtain ⟨shorter, indented⟩ := indents trimmed compact done
  refine ⟨shorter, ?_, kept⟩
  simp only [boundResult, compositeTool, valid, indented]

theorem buildValidatedResult_valid {content : Object} {docJSON text : List UInt8} (isError : Bool)
    (valid : validateAgainstCompiledSchema validator content (outputSchema tool operations)
      "output validation failed" = .ok docJSON) (indented : m.indent docJSON = .ok text) :
    buildValidatedResult m (compositeTool validator meter m.responseCap operations tool rt) content
        isError =
      if !isError && text.length > m.responseCap then
        boundResult m (compositeTool validator meter m.responseCap operations tool rt) content text
          (CompositeToolHandler.boundResponse meter tool m.responseCap content text.length)
      else .built (.content content text isError) [] := by
  have output : (compositeTool validator meter m.responseCap operations tool rt).output content =
      .ok docJSON := valid
  have bounder : (compositeTool validator meter m.responseCap operations tool rt).bounder =
      some (CompositeToolHandler.boundResponse meter tool m.responseCap) := rfl
  simp only [buildValidatedResult, output, indented, bounder]

theorem built_of_accepted (compiles : Compiles validator (outputSchema tool operations))
    (indents : ∀ document docJSON, validator.marshal document = .ok docJSON →
      ∃ text, m.indent docJSON = .ok text) {content : Object} (isError : Bool)
    (accepted : accepts valueView (outputSchema tool operations) (.obj content) = true) :
    ∃ shown text counted,
      buildValidatedResult m (compositeTool validator meter m.responseCap operations tool rt) content
          isError = .built (.content shown text isError) counted ∧
        accepts valueView (outputSchema tool operations) (.obj shown) = true := by
  obtain ⟨docJSON, done, valid⟩ := validate_accepted compiles "output validation failed" accepted
  obtain ⟨text, indented⟩ := indents content docJSON done
  rw [buildValidatedResult_valid isError valid indented]
  split_ifs with large
  · obtain rfl : isError = false := by simpa using (Bool.and_eq_true_iff.mp large).1
    rcases boundContent_cutTo meter tool m.responseCap text.length content with
      same | same | ⟨trimmed, same, cut⟩
    · rw [same]
      exact ⟨content, text, _, rfl, accepted⟩
    · rw [same]
      exact ⟨content, text, _, rfl, accepted⟩
    · obtain ⟨shorter, built, kept⟩ := boundResult_truncated compiles indents cut accepted text
      rw [same]
      exact ⟨trimmed, shorter, _, built, kept⟩
  · exact ⟨content, text, _, rfl, accepted⟩

theorem refused_of_not_accepted (compiles : Compiles validator (outputSchema tool operations))
    {content : Object} (isError : Bool)
    (refused : accepts valueView (outputSchema tool operations) (.obj content) = false) :
    ∃ err, buildValidatedResult m
      (compositeTool validator meter m.responseCap operations tool rt) content isError =
        .refused err := by
  obtain ⟨err, valid⟩ := validate_refused compiles "output validation failed" refused
  simp only [buildValidatedResult, compositeTool, valid]
  exact ⟨_, rfl⟩

/-- A composite tool replies with what its schema accepts. It refuses what the schema refuses and
nothing else, so not what the size cap has cut; the tools that read cannot be refused at all. -/
theorem replies_conform (m : ToolManager) (validator : Validator) (meter : Meter)
    (operations : List (String × SpecOperation)) (tool : CompositeTool) (rt : RegisteredTool)
    (compiles : Compiles validator (outputSchema tool operations))
    (indents : ∀ document docJSON, validator.marshal document = .ok docJSON →
      ∃ text, m.indent docJSON = .ok text) :
    (∀ content isError shown text flag counted,
      buildValidatedResult m (compositeTool validator meter m.responseCap operations tool rt) content
          isError = .built (.content shown text flag) counted →
        accepts valueView (outputSchema tool operations) (.obj shown) = true) ∧
    (∀ content isError,
      (∃ err, buildValidatedResult m (compositeTool validator meter m.responseCap operations tool rt)
          content isError = .refused err) ↔
        accepts valueView (outputSchema tool operations) (.obj content) = false) ∧
    (callsConfigOrActionOperation tool = false → ∀ registry stepResults out,
      applyResultStrategy registry tool.result stepResults = .ok out →
        accepts valueView (outputSchema tool operations) (.obj out) = true) ∧
    ∀ outcome message,
      accepts valueView (outputSchema tool operations) (.obj (desiredContent outcome message)) = true ↔
        callsConfigOrActionOperation tool = true ∧
          hasDesiredStateEligibleStep tool operations = true := by
  refine ⟨?_, ?_, ?_, desired_accepted_iff⟩
  · intro content isError shown text flag counted built
    cases accepted : accepts valueView (outputSchema tool operations) (.obj content) with
    | false =>
        obtain ⟨err, refused⟩ := refused_of_not_accepted compiles isError accepted
        cases refused.symm.trans built
    | true =>
        obtain ⟨other, _, _, same, kept⟩ := built_of_accepted compiles indents isError accepted
        cases same.symm.trans built
        exact kept
  · intro content isError
    refine ⟨?_, refused_of_not_accepted compiles isError⟩
    rintro ⟨err, refused⟩
    by_contra accepted
    obtain ⟨_, _, _, built, -⟩ :=
      built_of_accepted compiles indents isError (eq_true_of_ne_false accepted)
    cases refused.symm.trans built
  · intro reads registry stepResults out done
    unfold outputSchema
    rw [reads]
    exact accepts_stepKeyed_iff.mpr (collected_objects done)

def nullText : List UInt8 := "null".toUTF8.toList

def textValidator (schema : Schema) (texts : Object → List UInt8) : Validator where
  marshal document :=
    .ok (if accepts valueView schema (.obj document) then texts document else nullText)
  validate _ docJSON :=
    .ok (if docJSON = nullText then ["(root): Invalid type. Expected: object, given: null"] else [])

theorem textValidator_compiles (schema : Schema) {texts : Object → List UInt8}
    (filled : ∀ document, texts document ≠ nullText) :
    Compiles (textValidator schema texts) schema := by
  refine ⟨fun document => ⟨_, rfl⟩, ?_⟩
  rintro document _ ⟨⟩
  refine ⟨_, rfl, ?_⟩
  cases accepts valueView schema (.obj document) <;> simp [filled]

theorem bytes_ne_null (rest : String) : ("\x7b" ++ rest).toUTF8.toList ≠ nullText := by
  rw [Utf8.toUTF8_toList, String.toList_append, nullText, Utf8.toUTF8_toList]
  intro same
  have first : some _ = some _ := congrArg List.head? same
  revert first
  decide

def goneText : String :=
  "\x7b" ++ ("\"changed\":false,\"message\":\"Queue q1 does not exist.\"," ++
    "\"outcome\":\"already_absent\"\x7d")

def goneIndented : String :=
  "\x7b\n  \"changed\": false,\n  \"message\": \"Queue q1 does not exist.\",\n" ++
    "  \"outcome\": \"already_absent\"\n\x7d"

def goneManager : ToolManager :=
  { denyingManager with
    indent := fun _ => .ok goneIndented.toUTF8.toList
    responseCap := responseCapBytes }

def deleteOperations : List (String × SpecOperation) :=
  [("config/deleteMsgVpnQueue", ⟨deleteMsgVpnQueue, none⟩)]

def goneValidator : Validator :=
  textValidator (outputSchema deleteQueue deleteOperations) fun _ => goneText.toUTF8.toList

def noHandler : RegisteredTool where
  noBroker := false
  destructive := false
  input := fun _ => .ok ()
  output := fun _ => .ok []
  handle := fun _ => .panicked
  bounder := none

def queueGone : DesiredStateOutcome := ⟨.alreadyAbsent, 6, "NOT_FOUND", "deleteMsgVpnQueue"⟩

def listQueues : CompositeTool :=
  { deleteQueue with
    name := "list-queues"
    steps := [{ deleteQueueStep with id := "queues", operation := "monitor/getMsgVpnQueues" }] }

def queuesText (rows : Nat) (rest : String) : String :=
  "\x7b" ++ ("\"queues\":\x7b\"data\":[" ++ ",".intercalate (List.replicate rows "true") ++ "]" ++
    rest ++ "\x7d\x7d")

def queuesIndented (rows : Nat) (rest : String) : String :=
  "\x7b\n  \"queues\": \x7b\n    \"data\": [\n" ++
    ",\n".intercalate (List.replicate rows "      true") ++ "\n    ]" ++ rest ++ "\n  \x7d\n\x7d"

def cutText : String :=
  queuesText 12 (",\"omittedItems\":28,\"truncated\":true,\"truncatedMessage\":\"" ++
    boundNote "" 12 40 500 false false ++ "\"")

def cutIndented : String :=
  queuesIndented 12 (",\n    \"omittedItems\": 28,\n    \"truncated\": true,\n" ++
    "    \"truncatedMessage\": \"" ++ boundNote "" 12 40 500 false false ++ "\"")

def isWhole (document : Object) : Bool :=
  ((document.obj? "queues").bind (·.arr? "data")).any fun rows => rows.length = 40

def cutValidator : Validator :=
  textValidator (outputSchema listQueues []) fun document =>
    (if isWhole document then queuesText 40 "" else cutText).toUTF8.toList

def cutManager : ToolManager :=
  { denyingManager with
    indent := fun docJSON => .ok
      (if docJSON = (queuesText 40 "").toUTF8.toList then queuesIndented 40 ""
      else cutIndented).toUTF8.toList
    responseCap := 500 }

theorem cutValidator_compiles : Compiles cutValidator (outputSchema listQueues []) := by
  refine textValidator_compiles _ fun document => ?_
  cases isWhole document
  · exact bytes_ne_null _
  · exact bytes_ne_null _

theorem fortyQueues_cut : ∃ shown,
    CompositeToolHandler.boundResponse (jsonMeter plain) listQueues 500 fortyQueues 520 =
      .truncated shown ∧ CutTo fortyQueues shown := by
  have resumable : (fun id => listQueues.steps.any fun step => step.resumable && step.id = id) =
      fun _ => false := by
    funext id
    rfl
  obtain ⟨⟨shown, report⟩, made⟩ : ∃ made,
      boundToolResponse (jsonMeter plain) listQueues fortyQueues 520 500 = made := ⟨_, rfl⟩
  have strategy : listQueues.result = ⟨"collect", "", false⟩ := rfl
  have bounded := made
  rw [boundToolResponse, resumable, strategy] at bounded
  have truncated : report.truncated = true := by
    rw [← fortyQueues_truncated, bounded]
  have reached : CutTo fortyQueues shown := by
    have cut : CutTo fortyQueues (boundResponse (jsonMeter plain) ⟨"collect", "", false⟩
        (fun _ => false) fortyQueues 520 500).1 := boundResponse_cutTo _ _ _
    rw [bounded] at cut
    exact cut
  refine ⟨shown, ?_, reached⟩
  rw [CompositeToolHandler.boundResponse, made]
  exact if_pos truncated

theorem replies_conform_gone_and_cut :
    (¬ ∃ err, buildValidatedResult goneManager
      (compositeTool goneValidator (jsonMeter plain) responseCapBytes deleteOperations deleteQueue
        noHandler) (desiredContent queueGone "Queue q1 does not exist.") false = .refused err) ∧
    ∃ shown text, buildValidatedResult cutManager
        (compositeTool cutValidator (jsonMeter plain) 500 [] listQueues noHandler) fortyQueues false =
          .built (.content shown text false) [.responseTruncated] ∧
      accepts valueView (outputSchema listQueues []) (.obj shown) = true := by
  constructor
  · have filled : goneText.toUTF8.toList ≠ nullText := bytes_ne_null _
    have conform := replies_conform goneManager goneValidator (jsonMeter plain) deleteOperations
      deleteQueue noHandler (textValidator_compiles _ fun _ => filled) fun _ _ _ => ⟨_, rfl⟩
    intro refused
    have outside := (conform.2.1 _ false).mp refused
    have inside := (conform.2.2.2 queueGone "Queue q1 does not exist.").mpr ⟨rfl, rfl⟩
    exact absurd (inside.symm.trans outside) (by decide)
  · have indents : ∀ document docJSON, cutValidator.marshal document = .ok docJSON →
        ∃ text, cutManager.indent docJSON = .ok text := fun _ _ _ => ⟨_, rfl⟩
    have conform := replies_conform cutManager cutValidator (jsonMeter plain) [] listQueues noHandler
      cutValidator_compiles indents
    have accepted : accepts valueView (outputSchema listQueues []) (.obj fortyQueues) = true := rfl
    have long : (queuesIndented 40 "").toUTF8.toList.length = 520 := by
      rw [Utf8.toUTF8_toList, ← Utf8.utf8ByteSize_eq]
      decide +kernel
    obtain ⟨docJSON, done, valid⟩ := validate_accepted cutValidator_compiles "output validation failed"
      accepted
    obtain rfl : (queuesText 40 "").toUTF8.toList = docJSON := Except.ok.inj done
    have indented : cutManager.indent (queuesText 40 "").toUTF8.toList =
        .ok (queuesIndented 40 "").toUTF8.toList := by
      simp only [cutManager, if_true]
    obtain ⟨shown, same, cut⟩ := fortyQueues_cut
    obtain ⟨text, built, -⟩ := @boundResult_truncated cutManager cutValidator (jsonMeter plain) []
      listQueues noHandler cutValidator_compiles indents _ _ cut accepted
      (queuesIndented 40 "").toUTF8.toList
    have reply := @buildValidatedResult_valid cutManager cutValidator (jsonMeter plain) [] listQueues
      noHandler _ _ _ false valid indented
    rw [long, if_pos (by decide)] at reply
    have reply := reply.trans (same ▸ built)
    exact ⟨shown, text, reply, conform.1 _ _ _ _ _ _ reply⟩

end BrokerMcp.Proof.Tools
