import BrokerMcp.Composite.Result
import BrokerMcp.Proof.Composite.Pages

namespace BrokerMcp.Proof.Composite
open Resilience BrokerMcp.Composite

inductive BearsURI : Value → Prop where
  | key {fields : Object} {key : String} {v : Value} (member : (key, v) ∈ fields)
      (uri : isURIKey key = true) : BearsURI (.obj fields)
  | field {fields : Object} {key : String} {v : Value} (member : (key, v) ∈ fields)
      (inside : BearsURI v) : BearsURI (.obj fields)
  | item {items : List Value} {v : Value} (member : v ∈ items) (inside : BearsURI v) :
      BearsURI (.arr items)

/-- An array holds a URI, and it is reached through objects under keys that are kept. -/
inductive Shelters : Value → Prop where
  | items {items : List Value} {v : Value} (member : v ∈ items) (bears : BearsURI v) :
      Shelters (.arr items)
  | field {fields : Object} {key : String} {v : Value} (member : (key, v) ∈ fields)
      (kept : isURIKey key = false) (inside : Shelters v) : Shelters (.obj fields)

theorem mem_scrubURIFields {fields : Object} {key : String} {v : Value} :
    (key, v) ∈ scrubURIFields fields ↔
      ∃ u, (key, u) ∈ fields ∧ isURIKey key = false ∧ v = scrubNested u := by
  induction fields with
  | nil => simp [scrubURIFields]
  | cons entry fields ih =>
      obtain ⟨k, u⟩ := entry
      unfold scrubURIFields
      split_ifs with uri
      · rw [ih]
        constructor
        · rintro ⟨u', member, kept, same⟩
          exact ⟨u', .tail _ member, kept, same⟩
        · rintro ⟨u', member, kept, same⟩
          rcases List.mem_cons.mp member with here | later
          · obtain ⟨rfl, rfl⟩ := Prod.mk.inj here
            cases kept.symm.trans uri
          · exact ⟨u', later, kept, same⟩
      · rw [List.mem_cons, ih]
        constructor
        · rintro (here | ⟨u', member, kept, same⟩)
          · obtain ⟨rfl, rfl⟩ := Prod.mk.inj here
            exact ⟨u, .head _, by simpa using uri, rfl⟩
          · exact ⟨u', .tail _ member, kept, same⟩
        · rintro ⟨u', member, kept, same⟩
          rcases List.mem_cons.mp member with here | later
          · obtain ⟨rfl, rfl⟩ := Prod.mk.inj here
            exact .inl (by rw [same])
          · exact .inr ⟨u', later, kept, same⟩

theorem scrubNested_obj {v : Value} {fields : Object} (same : scrubNested v = .obj fields) :
    ∃ nested, v = .obj nested ∧ fields = scrubURIFields nested := by
  cases v with
  | obj nested =>
      rw [scrubNested] at same
      exact ⟨nested, rfl, (Value.obj.inj same).symm⟩
  | _ =>
      rw [scrubNested] at same
      · cases same
      · exact nofun

theorem scrubNested_arr {v : Value} {items : List Value} (same : scrubNested v = .arr items) :
    v = .arr items := by
  cases v with
  | obj nested =>
      rw [scrubNested] at same
      cases same
  | _ =>
      rw [scrubNested] at same
      · exact same
      · exact nofun

theorem bearsURI_of_shelters {v : Value} (shelters : Shelters v) : BearsURI (scrubNested v) := by
  induction shelters with
  | items member bears =>
      rw [scrubNested]
      · exact .item member bears
      · exact nofun
  | field member kept _ ih =>
      rw [scrubNested]
      exact .field (mem_scrubURIFields.mpr ⟨_, member, kept, rfl⟩) ih

theorem shelters_of_bearsURI {u v : Value} (bears : BearsURI u) (same : scrubNested v = u) :
    Shelters v := by
  induction bears generalizing v with
  | key member uri =>
      obtain ⟨nested, rfl, rfl⟩ := scrubNested_obj same
      obtain ⟨_, -, kept, -⟩ := mem_scrubURIFields.mp member
      cases kept.symm.trans uri
  | field member _ ih =>
      obtain ⟨nested, rfl, rfl⟩ := scrubNested_obj same
      obtain ⟨w, old, kept, same⟩ := mem_scrubURIFields.mp member
      exact .field old kept (ih same.symm)
  | item member inside =>
      obtain rfl := scrubNested_arr same
      exact .items member inside

theorem scrubNested_bearsURI_iff {v : Value} : BearsURI (scrubNested v) ↔ Shelters v :=
  ⟨fun bears => shelters_of_bearsURI bears rfl, bearsURI_of_shelters⟩

theorem scrubEnvelope_eq (m : Object) : scrubEnvelope m = (scrubV2Envelope m).map fun entry =>
    if entry.1 = "byKey" then (entry.1, scrubByKey entry.2) else entry := by
  induction m with
  | nil => simp [scrubEnvelope, scrubV2Envelope]
  | cons entry m ih =>
      obtain ⟨k, v⟩ := entry
      unfold scrubV2Envelope at ih ⊢
      rw [scrubEnvelope, List.filterMap_cons, ih]
      by_cases rows : k = "byKey"
      · subst rows
        rfl
      · rw [if_neg rows]
        have named {entry : String × Value} (left : scrubEntry (k, v) = some entry) :
            entry.1 = k := by
          unfold scrubEntry at left
          split_ifs at left
          all_goals obtain rfl := Option.some.inj left; rfl
        cases left : scrubEntry (k, v) with
        | none => rfl
        | some entry => simp [named left, rows]

def scrubbedAt (key : String) (v : Option Value) : Option Value :=
  if key = "links" then none
  else if key = "meta" then v.map scrubNested
  else if key = "byKey" then v.map scrubByKey
  else v

theorem lookup_scrubEnvelope (m : Object) (key : String) :
    (scrubEnvelope m).lookup key = scrubbedAt key (m.lookup key) := by
  induction m with
  | nil => simp [scrubEnvelope, scrubbedAt]
  | cons entry m ih =>
      obtain ⟨k, v⟩ := entry
      rw [scrubEnvelope, Assoc.lookup_cons_eq]
      by_cases rows : k = "byKey"
      · rw [if_pos rows, Assoc.lookup_cons_eq, ih]
        split_ifs with here
        · subst here rows
          rfl
        · rfl
      · rw [if_neg rows]
        by_cases links : k = "links"
        · have gone : scrubEntry (k, v) = none := if_pos links
          simp only [gone, ih]
          split_ifs with here
          · subst here links
            rfl
          · rfl
        · have left : scrubEntry (k, v) = some (k, if k = "meta" then scrubNested v else v) := by
            simp only [scrubEntry, links, ↓reduceIte]
            split_ifs
            · rfl
            · rfl
          simp only [left, Assoc.lookup_cons_eq, ih]
          split_ifs with here uris
          · subst here uris
            rfl
          · subst here
            simp [scrubbedAt, links, uris, rows]
          · rfl

theorem lookup_scrubRows (rows : Object) (key : String) :
    (scrubRows rows).lookup key = (rows.lookup key).map scrubRow := by
  induction rows with
  | nil => rfl
  | cons entry rows ih =>
      obtain ⟨k, v⟩ := entry
      rw [scrubRows, Assoc.lookup_cons_eq, Assoc.lookup_cons_eq, ih]
      split_ifs
      · rfl
      · rfl

theorem keys_scrubRows (rows : Object) : (scrubRows rows).map Prod.fst = rows.map Prod.fst := by
  induction rows with
  | nil => rfl
  | cons entry rows ih =>
      obtain ⟨k, v⟩ := entry
      rw [scrubRows, List.map_cons, List.map_cons, ih]

theorem obj?_scrubByKey (v : Value) : (scrubByKey v).obj? = v.obj?.map scrubRows := by
  cases v <;> rfl

theorem obj?_scrubRow (v : Value) : (scrubRow v).obj? = v.obj?.map scrubEnvelope := by
  cases v <;> rfl

def envelopeAt : List String → Object → Option Object
  | [], m => some m
  | key :: path, m => do
      let byKey ← m.obj? "byKey"
      let entry ← byKey.obj? key
      envelopeAt path entry

theorem rows_scrubEnvelope (m : Object) :
    Object.obj? (scrubEnvelope m) "byKey" = (m.obj? "byKey").map scrubRows := by
  unfold Object.obj?
  rw [lookup_scrubEnvelope]
  cases m.lookup "byKey" with
  | none => rfl
  | some v => exact obj?_scrubByKey v

theorem obj?_scrubRows (byKey : Object) (key : String) :
    Object.obj? (scrubRows byKey) key = (byKey.obj? key).map scrubEnvelope := by
  unfold Object.obj?
  rw [lookup_scrubRows]
  cases byKey.lookup key with
  | none => rfl
  | some v => exact obj?_scrubRow v

theorem envelopeAt_scrubEnvelope (path : List String) (m : Object) :
    envelopeAt path (scrubEnvelope m) = (envelopeAt path m).map scrubEnvelope := by
  induction path generalizing m with
  | nil => rfl
  | cons key path ih =>
      simp only [envelopeAt, rows_scrubEnvelope, Option.bind_eq_bind]
      cases m.obj? "byKey" with
      | none => rfl
      | some byKey =>
          simp only [Option.map_some, Option.bind_some, obj?_scrubRows]
          cases byKey.obj? key with
          | none => rfl
          | some e => exact ih e

structure Withheld (before after : Object) : Prop where
  links : after.lookup "links" = none
  uris : ∀ v, after.lookup "meta" = some v → ¬ BearsURI v
  kept : ∀ key, key ∉ ["links", "meta", "byKey"] → after.lookup key = before.lookup key
  unshaped : before.obj? "byKey" = none → after.lookup "byKey" = before.lookup "byKey"
  rows : ∀ byKey, before.obj? "byKey" = some byKey → ∃ byKey', after.obj? "byKey" = some byKey' ∧
    byKey'.map Prod.fst = byKey.map Prod.fst ∧
    ∀ key, byKey.obj? key = none → byKey'.lookup key = byKey.lookup key

theorem withheld_scrubEnvelope_iff (m : Object) : Withheld m (scrubEnvelope m) ↔
    ∀ v, m.lookup "meta" = some v → ¬ Shelters v := by
  have uris : (scrubEnvelope m).lookup "meta" = (m.lookup "meta").map scrubNested :=
    lookup_scrubEnvelope m "meta"
  have rows : (scrubEnvelope m).lookup "byKey" = (m.lookup "byKey").map scrubByKey :=
    lookup_scrubEnvelope m "byKey"
  constructor
  · intro withheld v entry shelters
    refine withheld.uris (scrubNested v) ?_ (scrubNested_bearsURI_iff.mpr shelters)
    rw [uris, entry, Option.map_some]
  · intro clean
    refine ⟨lookup_scrubEnvelope m "links", ?_, ?_, ?_, ?_⟩
    · intro u entry bears
      rw [uris] at entry
      obtain ⟨v, old, rfl⟩ := Option.map_eq_some_iff.mp entry
      exact clean v old (scrubNested_bearsURI_iff.mp bears)
    · intro key other
      rw [lookup_scrubEnvelope]
      simp only [List.mem_cons, List.not_mem_nil, or_false, not_or] at other
      simp [scrubbedAt, other]
    · intro unshaped
      rw [rows]
      cases entry : m.lookup "byKey" with
      | none => rfl
      | some v =>
          rw [Object.obj?, entry] at unshaped
          cases v with
          | obj byKey => cases unshaped
          | _ => rfl
    · intro byKey found
      refine ⟨scrubRows byKey, ?_, keys_scrubRows byKey, ?_⟩
      · rw [rows_scrubEnvelope, found]
        rfl
      · intro key unshaped
        rw [lookup_scrubRows]
        cases row : byKey.lookup key with
        | none => rfl
        | some v =>
            rw [Object.obj?, row] at unshaped
            cases v with
            | obj e => cases unshaped
            | _ => rfl

section Strategies

variable {registry : Registry} {strategy : ResultStrategy} {stepResults left : StepResults}
  {out : Object}

inductive Leaves (registry : Registry) (strategy : ResultStrategy) (stepResults : StepResults)
    (out : Object) : StepResults → Prop where
  | collect (collects : strategy.strategy = "collect") :
      Leaves registry strategy stepResults out stepResults
  | postProcess {summary : Object} {left : StepResults}
      (processes : strategy.strategy = "postProcess")
      (applied : registry.apply strategy.postProcess stepResults = .ok (summary, left))
      (shown : out.lookup "summary" = some (.obj summary)) :
      Leaves registry strategy stepResults out left

def Shows (strategy : ResultStrategy) (id : String) : Prop :=
  strategy.strategy = "collect" ∨ (strategy.omitRawSteps = false ∧ id ≠ "summary")

structure Discreet (strategy : ResultStrategy) (left : StepResults) (out : Object) : Prop where
  steps : ∀ id step, Shows strategy id → left.lookup id = some step →
    ∃ shown, out.lookup id = some (.obj shown) ∧ ∀ path,
      (envelopeAt path step = none → envelopeAt path shown = none) ∧
      ∀ before, envelopeAt path step = some before →
        ∃ after, envelopeAt path shown = some after ∧ Withheld before after
  nothingElse : ∀ id v, out.lookup id = some v →
    (Shows strategy id ∧ (left.lookup id).isSome) ∨
      (strategy.strategy = "postProcess" ∧ id = "summary")

theorem lookup_collectSteps (stepResults : StepResults) (id : String) :
    (collectSteps stepResults).lookup id = (stepResults.lookup id).map fun _ => .step id :=
  Assoc.lookup_map_entries (fun step => Slot.step step.1) stepResults id

theorem lookup_scrubBrokerURIs (stepResults : StepResults) (id : String) :
    (scrubBrokerURIs stepResults).lookup id = (stepResults.lookup id).map scrubEnvelope :=
  Assoc.lookup_map_entries (fun step => scrubEnvelope step.2) stepResults id

theorem lookup_read (slots : List (String × Slot)) (stepResults : StepResults) (id : String) :
    (slots.map fun entry => (entry.1, entry.2.read stepResults)).lookup id =
      (slots.lookup id).map (Slot.read stepResults) :=
  Assoc.lookup_map_entries (fun entry : String × Slot => entry.2.read stepResults) slots id

theorem assemble_lookup {slots : List (String × Slot)}
    (built : assemble registry strategy stepResults = .ok (slots, left))
    (read : out = slots.map fun entry => (entry.1, entry.2.read (scrubBrokerURIs left))) :
    Leaves registry strategy stepResults out left ∧
      ∀ id, (Shows strategy id → slots.lookup id = (left.lookup id).map fun _ => .step id) ∧
        (¬ Shows strategy id → (slots.lookup id).isSome → strategy.strategy = "postProcess" ∧
          id = "summary") := by
  unfold assemble at built
  split_ifs at built with collects processes omits
  · obtain ⟨rfl, rfl⟩ := Prod.mk.inj (Except.ok.inj built)
    refine ⟨.collect collects, fun id => ⟨fun _ => lookup_collectSteps _ id, ?_⟩⟩
    intro hidden
    exact absurd (.inl collects) hidden
  · obtain ⟨⟨summary, left'⟩, applied, built⟩ := bind_ok built
    obtain ⟨rfl, rfl⟩ := Prod.mk.inj (Except.ok.inj built)
    refine ⟨.postProcess processes applied (by rw [read]; rfl), fun id => ⟨?_, ?_⟩⟩
    · rintro (collects' | ⟨keeps, -⟩)
      · exact absurd collects' collects
      · cases keeps.symm.trans omits
    · intro _ found
      rw [Assoc.lookup_cons_eq] at found
      split_ifs at found with here
      · exact ⟨processes, here⟩
      · cases found
  · obtain ⟨⟨summary, left'⟩, applied, built⟩ := bind_ok built
    obtain ⟨rfl, rfl⟩ := Prod.mk.inj (Except.ok.inj built)
    refine ⟨.postProcess processes applied ?_, fun id => ⟨?_, ?_⟩⟩
    · rw [read, lookup_read, Assoc.lookup_put, if_pos rfl]
      rfl
    · rintro (collects' | ⟨-, other⟩)
      · exact absurd collects' collects
      · rw [Assoc.lookup_put, if_neg other, lookup_collectSteps]
    · intro hidden _
      refine ⟨processes, ?_⟩
      by_contra other
      exact hidden (.inr ⟨by simpa using omits, other⟩)

theorem applyResultStrategy_ok
    (done : applyResultStrategy registry strategy stepResults = .ok out) :
    ∃ (slots : List (String × Slot)) (left : StepResults),
      Leaves registry strategy stepResults out left ∧
      (∀ id, out.lookup id = (slots.lookup id).map (Slot.read (scrubBrokerURIs left))) ∧
      ∀ id, (Shows strategy id → slots.lookup id = (left.lookup id).map fun _ => .step id) ∧
        (¬ Shows strategy id → (slots.lookup id).isSome → strategy.strategy = "postProcess" ∧
          id = "summary") := by
  unfold applyResultStrategy at done
  obtain ⟨⟨slots, left⟩, built, done⟩ := bind_ok done
  replace done := Except.ok.inj done
  obtain ⟨leaves, placed⟩ := assemble_lookup built done.symm
  refine ⟨slots, left, leaves, fun id => ?_, placed⟩
  rw [← done]
  exact lookup_read slots _ id

theorem shown_step {slots : List (String × Slot)} {id : String} {step : Object}
    (read : out.lookup id = (slots.lookup id).map (Slot.read (scrubBrokerURIs left)))
    (placed : slots.lookup id = (left.lookup id).map fun _ => .step id)
    (found : left.lookup id = some step) : out.lookup id = some (.obj (scrubEnvelope step)) := by
  rw [read, placed, found]
  simp [Slot.read, lookup_scrubBrokerURIs, found]

end Strategies

/-- The result shows no URI of the broker exactly when no array inside the `meta` of an envelope that
it shows holds one. -/
theorem uris_scrubbed_iff (registry : Registry) (strategy : ResultStrategy)
    (stepResults : StepResults) {out : Object}
    (done : applyResultStrategy registry strategy stepResults = .ok out) :
    ∃ left, Leaves registry strategy stepResults out left ∧
      (Discreet strategy left out ↔ ∀ id step path e v, Shows strategy id →
        left.lookup id = some step → envelopeAt path step = some e → e.lookup "meta" = some v →
        ¬ Shelters v) := by
  obtain ⟨slots, left, leaves, read, placed⟩ := applyResultStrategy_ok done
  have shown {id : String} {step : Object} (shows : Shows strategy id)
      (found : left.lookup id = some step) : out.lookup id = some (.obj (scrubEnvelope step)) :=
    shown_step (read id) ((placed id).1 shows) found
  refine ⟨left, leaves, ?_, ?_⟩
  · intro discreet id step path e v shows found inside entry
    obtain ⟨_, here, envelopes⟩ := discreet.steps id step shows found
    obtain rfl := Value.obj.inj (Option.some.inj ((shown shows found).symm.trans here))
    obtain ⟨after, there, withheld⟩ := (envelopes path).2 e inside
    rw [envelopeAt_scrubEnvelope, inside, Option.map_some, Option.some.injEq] at there
    subst there
    exact (withheld_scrubEnvelope_iff e).mp withheld v entry
  · intro clean
    refine ⟨?_, ?_⟩
    · intro id step shows found
      refine ⟨_, shown shows found, fun path => ?_⟩
      rw [envelopeAt_scrubEnvelope]
      refine ⟨fun missing => by rw [missing]; rfl, fun before inside => ?_⟩
      refine ⟨scrubEnvelope before, by rw [inside]; rfl, ?_⟩
      exact (withheld_scrubEnvelope_iff before).mpr fun v entry =>
        clean id step path before v shows found inside entry
    · intro id v found
      by_cases shows : Shows strategy id
      · refine .inl ⟨shows, ?_⟩
        rw [read, (placed id).1 shows] at found
        cases here : left.lookup id with
        | none => simp [here] at found
        | some step => rfl
      · refine .inr ((placed id).2 shows ?_)
        rw [read] at found
        cases here : slots.lookup id with
        | none => simp [here] at found
        | some slot => rfl

private def queueStep : Object :=
  [("data", .arr []), ("links", .arr []),
    ("meta", .obj [("request", .obj [("uri", .str "https://broker:943/SEMP/v2/monitor")])])]

theorem uris_scrubbed_of_queues : ∃ out left,
    applyResultStrategy [] ⟨"collect", "", false⟩ [("queues", queueStep)] = .ok out ∧
      Leaves [] ⟨"collect", "", false⟩ [("queues", queueStep)] out left ∧
      Discreet ⟨"collect", "", false⟩ left out := by
  have done : applyResultStrategy [] ⟨"collect", "", false⟩ [("queues", queueStep)] =
      .ok [("queues", .obj [("data", .arr []), ("meta", .obj [("request", .obj [])])])] := rfl
  obtain ⟨left, leaves, exact⟩ := uris_scrubbed_iff [] _ _ done
  refine ⟨_, left, done, leaves, exact.mpr ?_⟩
  cases leaves with
  | postProcess processes => exact absurd processes (by decide)
  | collect =>
      intro id step path e v _ found inside entry shelters
      obtain ⟨-, rfl⟩ : id = "queues" ∧ queueStep = step := by
        rw [Assoc.lookup_cons_eq] at found
        split_ifs at found with here
        · exact ⟨here, Option.some.inj found⟩
        · cases found
      cases path with
      | cons key path => cases inside
      | nil =>
          obtain rfl := Option.some.inj inside
          obtain rfl := Option.some.inj entry
          cases shelters with
          | field member _ inner =>
              obtain ⟨-, rfl⟩ := Prod.mk.inj (List.mem_singleton.mp member)
              cases inner with
              | field member kept =>
                  obtain ⟨rfl, -⟩ := Prod.mk.inj (List.mem_singleton.mp member)
                  cases kept

/-- A URI in an array inside `meta` reaches the caller. -/
theorem uri_in_array_shown : ¬ ∀ (registry : Registry) (strategy : ResultStrategy)
    (stepResults : StepResults) (out : Object),
    applyResultStrategy registry strategy stepResults = .ok out →
    ∃ left, Leaves registry strategy stepResults out left ∧ Discreet strategy left out := by
  intro always
  let step : Object := [("meta", .obj [("requests", .arr [.obj [("uri", .str "https://broker:943")]])])]
  obtain ⟨left, leaves, discreet⟩ :=
    always [] ⟨"collect", "", false⟩ [("get", step)] [("get", .obj step)] rfl
  cases leaves with
  | postProcess processes => exact absurd processes (by decide)
  | collect =>
      obtain ⟨shown, here, envelopes⟩ := discreet.steps "get" step (.inl rfl) rfl
      obtain rfl := Value.obj.inj (Option.some.inj here)
      obtain ⟨after, there, withheld⟩ := (envelopes []).2 step rfl
      obtain rfl := Option.some.inj there
      refine withheld.uris _ rfl (.field (.head _) (.item (.head _) (.key (.head _) ?_)))
      decide

end BrokerMcp.Proof.Composite
