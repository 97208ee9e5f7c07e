import BrokerMcp.Proof.Composite.Bound
import BrokerMcp.Proof.Composite.Marshal
import Mathlib.Data.List.Sort
import Mathlib.Data.String.Basic

namespace BrokerMcp.Proof.Composite
open BrokerMcp.Composite

theorem candidate_fresh {meter : Meter} {out : Object} {id : String} {c : BoundCandidate}
    (found : candidate meter out id = some c) :
    c.id = id ∧ c.items ≠ [] ∧ c.keep = c.items.length := by
  unfold candidate at found
  obtain ⟨step, -, found⟩ := Option.bind_eq_some_iff.mp found
  obtain ⟨items, -, found⟩ := Option.bind_eq_some_iff.mp found
  split_ifs at found with empty
  obtain ⟨lengths, -, made⟩ := Option.bind_eq_some_iff.mp found
  obtain rfl := Option.some.inj made
  exact ⟨rfl, fun none => empty (List.length_eq_zero_iff.mpr none), rfl⟩

theorem filterMap_ids_sublist {f : String → Option BoundCandidate}
    (named : ∀ id c, f id = some c → c.id = id) (ids : List String) :
    ((ids.filterMap f).map BoundCandidate.id).Sublist ids := by
  induction ids with
  | nil => exact List.Sublist.slnil
  | cons id ids ih =>
      rw [List.filterMap_cons]
      cases found : f id with
      | none => exact ih.cons id
      | some c =>
          rw [List.map_cons, named id c found]
          exact ih.cons_cons id

section Candidates

variable (meter : Meter) (out : Object) (hasSummary : Bool)

theorem candidates_fresh :
    ∀ c ∈ candidates meter out hasSummary, c.items ≠ [] ∧ c.keep = c.items.length := by
  intro c member
  obtain ⟨id, -, found⟩ := List.mem_filterMap.mp member
  exact (candidate_fresh found).2

theorem candidates_sorted (distinct : (out.map Prod.fst).Nodup) :
    ((candidates meter out hasSummary).map BoundCandidate.id).Pairwise (· < ·) := by
  let ids := (out.map Prod.fst).filter fun id => !(hasSummary && id = "summary")
  have part : ((candidates meter out hasSummary).map BoundCandidate.id).Sublist
      (ids.mergeSort fun a b => decide (a ≤ b)) :=
    filterMap_ids_sublist (fun _ _ found => (candidate_fresh found).1) _
  have once : (ids.mergeSort fun a b => decide (a ≤ b)).Nodup :=
    (List.mergeSort_perm ids _).nodup_iff.mpr (distinct.filter _)
  exact (List.sortedLE_mergeSort.sortedLT_of_nodup once).pairwise.sublist part

theorem summary_not_candidate :
    ∀ c ∈ candidates meter out true, c.id ≠ "summary" := by
  intro c member
  obtain ⟨id, sorted, found⟩ := List.mem_filterMap.mp member
  have kept := (List.mem_filter.mp ((List.mergeSort_perm _ _).mem_iff.mp sorted)).2
  rw [(candidate_fresh found).1]
  rintro rfl
  simp at kept

end Candidates

section Building

variable {out : Object} {limit : Nat} {hasSummary : Bool} {resumable : String → Bool}
  {cands : List BoundCandidate}

variable (limit hasSummary resumable) in
def cutTo (c : BoundCandidate) : Object :=
  if c.keep < c.items.length then trimmedStep c limit hasSummary (resumable c.id) else c.step

theorem build_cons (c : BoundCandidate) :
    build out limit hasSummary resumable (c :: cands) =
      build (if c.keep < c.items.length then
        Assoc.put c.id (.obj (trimmedStep c limit hasSummary (resumable c.id))) out else out)
        limit hasSummary resumable cands := rfl

theorem build_lookup_other {id : String} (other : id ∉ cands.map BoundCandidate.id) :
    (build out limit hasSummary resumable cands).lookup id = out.lookup id := by
  induction cands generalizing out with
  | nil => rfl
  | cons c rest ih =>
      rw [List.map_cons, List.mem_cons, not_or] at other
      rw [build_cons, ih other.2]
      split_ifs
      · rw [Assoc.lookup_put, if_neg other.1]
      · rfl

theorem build_lookup (distinct : (cands.map BoundCandidate.id).Nodup) {c : BoundCandidate}
    (member : c ∈ cands) (drawn : out.obj? c.id = some c.step) :
    (build out limit hasSummary resumable cands).lookup c.id =
      some (.obj (cutTo limit hasSummary resumable c)) := by
  induction cands generalizing out with
  | nil => cases member
  | cons d rest ih =>
      obtain ⟨fresh, distinct⟩ := List.nodup_cons.mp distinct
      rw [build_cons]
      rcases List.mem_cons.mp member with rfl | later
      · rw [build_lookup_other fresh, cutTo]
        split_ifs
        · rw [Assoc.lookup_put, if_pos rfl]
        · exact Object.obj?_eq_some.mp drawn
      · have apart : c.id ≠ d.id := by
          rintro same
          exact fresh (List.mem_map.mpr ⟨c, later, same⟩)
        refine ih distinct later ?_
        split_ifs
        · rw [Object.obj?, Assoc.lookup_put, if_neg apart]
          exact drawn
        · exact drawn

theorem build_keys (present : ∀ c ∈ cands, c.id ∈ out.map Prod.fst) :
    (build out limit hasSummary resumable cands).map Prod.fst = out.map Prod.fst := by
  induction cands generalizing out with
  | nil => rfl
  | cons c rest ih =>
      obtain ⟨first, later⟩ := List.forall_mem_cons.mp present
      rw [build_cons]
      split_ifs
      · rw [ih (by rwa [Assoc.keys_put _ first]), Assoc.keys_put _ first]
      · exact ih later

end Building

theorem map_of_cleared {α : Type*} {f : BoundCandidate → α} (blind : f ∘ cleared = f)
    {before after : List BoundCandidate} (same : after.map cleared = before.map cleared) :
    after.map f = before.map f := by
  have mapped := congrArg (List.map f) same
  rwa [List.map_map, List.map_map, blind] at mapped

theorem rowsLeft_of_full {cands : List BoundCandidate}
    (full : ∀ c ∈ cands, c.keep = c.items.length) :
    rowsLeft cands = (cands.map fun c => c.items.length).sum := by
  rw [rowsLeft, List.map_congr_left full]

structure Trims (meter : Meter) (out : Object) (hasSummary : Bool) (cands : List BoundCandidate) :
    Prop where
  drawn : ∀ c ∈ cands, Drawn out c
  ids : cands.map BoundCandidate.id = (candidates meter out hasSummary).map BoundCandidate.id
  cut : ∃ c ∈ cands, c.keep < c.items.length

section Passes

variable {meter : Meter} {out : Object} {hasSummary : Bool} {size limit : Nat}

theorem trims_of_shaved {after : List BoundCandidate}
    (shaved : Shaved out (candidates meter out hasSummary) after)
    (less : rowsLeft after < rowsLeft (candidates meter out hasSummary)) :
    Trims meter out hasSummary after := by
  have drawn := shaved.drawn (candidates_drawn meter out hasSummary)
  refine ⟨drawn, map_of_cleared rfl shaved.cleared, ?_⟩
  by_contra none
  push Not at none
  have full : ∀ c ∈ after, c.keep = c.items.length := by
    intro c member
    exact le_antisymm (drawn c member).keep (none c member)
  have before : ∀ c ∈ candidates meter out hasSummary, c.keep = c.items.length := by
    intro c member
    exact (candidates_fresh meter out hasSummary c member).2
  rw [rowsLeft_of_full full, rowsLeft_of_full before, map_of_cleared rfl shaved.cleared] at less
  exact lt_irrefl _ less

theorem passes_trim (make : List BoundCandidate → Object) (rows : Nat) (large : limit < size)
    (some : candidates meter out hasSummary ≠ []) :
    Trims meter out hasSummary (exactPass meter limit make rows
      (shaveExcess (rowsLeft (candidates meter out hasSummary)) (size - limit : Int)
        (candidates meter out hasSummary))) := by
  generalize source : candidates meter out hasSummary = cands at some ⊢
  obtain ⟨c, rest, rfl⟩ := List.exists_cons_of_ne_nil some
  have held := candidates_fresh meter out hasSummary c (source ▸ List.mem_cons_self)
  obtain ⟨n, left⟩ : ∃ n, rowsLeft (c :: rest) = n + 1 := by
    refine Nat.exists_eq_add_one.mpr ?_
    have positive := List.length_pos_iff.mpr held.1
    rw [rowsLeft, List.map_cons, List.sum_cons, held.2]
    omega
  have early := shaveExcess_progress n (c :: rest)
    (show ¬ ((size : Int) - limit) ≤ 0 by omega)
  rw [← left] at early
  have first := shaveExcess_shaved out (rowsLeft (c :: rest)) (size - limit : Int) (c :: rest)
  have second := exactPass_shaved meter out limit make rows
    (shaveExcess (rowsLeft (c :: rest)) (size - limit : Int) (c :: rest))
  have less := second.left
  refine trims_of_shaved (source ▸ first.trans second) ?_
  rw [source]
  omega

end Passes

section Response

variable (meter : Meter) (strategy : ResultStrategy) (resumable : String → Bool) (out : Object)
  (size limit : Nat)

def hasSummary (strategy : ResultStrategy) : Bool := decide (strategy.strategy = "postProcess")

def LoopsEnd (cands : List BoundCandidate) : Prop :=
  ∃ first, Shaving (size - limit) (candidates meter out (hasSummary strategy)) first ∧
    Measuring meter limit (build out limit (hasSummary strategy) resumable) first cands

theorem boundResponse_cases :
    (size ≤ limit ∧
      boundResponse meter strategy resumable out size limit = (out, ⟨false, false, 0, []⟩)) ∨
    (limit < size ∧
      boundResponse meter strategy resumable out size limit = (out, ⟨false, true, 0, []⟩)) ∨
    limit < size ∧ ∃ cands, Trims meter out (hasSummary strategy) cands ∧
      LoopsEnd meter strategy resumable out size limit cands ∧
      boundResponse meter strategy resumable out size limit =
        (build out limit (hasSummary strategy) resumable cands, report cands) := by
  unfold boundResponse
  dsimp only
  rw [← hasSummary]
  split_ifs with small stuck
  · exact .inl ⟨small, rfl⟩
  · exact .inr (.inl ⟨not_le.mp small, rfl⟩)
  · simp only [Bool.or_eq_true, not_or, Bool.not_eq_true, Bool.not_eq_false', List.isEmpty_eq_false_iff]
      at stuck
    obtain ⟨some, stuck⟩ := stuck
    obtain ⟨n, measured, fits⟩ := (Option.any_eq_true _ _).mp stuck
    refine .inr (.inr ⟨not_le.mp small, _, passes_trim _ _ (not_le.mp small) some, ?_, rfl⟩)
    exact passes_end measured (by simpa using fits)

end Response

/-- What a cut does to a step: it keeps fewer of its first rows, says how many are missing, and drops
the cursor. The message apart, everything else stays. -/
structure Shortened (step step' : Object) (omitted : Nat) : Prop where
  rows : ∃ items kept, step.arr? "data" = some items ∧ step'.arr? "data" = some kept ∧
    kept <+: items ∧ kept.length + omitted = items.length ∧ 0 < omitted
  omittedItems : step'.lookup "omittedItems" = some (.int omitted)
  truncated : step'.lookup "truncated" = some (.bool true)
  nextCursor : step'.lookup "nextCursor" = none
  others : ∀ key ∉ ["data", "omittedItems", "truncated", "nextCursor", "truncatedMessage"],
    step'.lookup key = step.lookup key

theorem trimmedStep_shortened {out : Object} {c : BoundCandidate} (drawn : Drawn out c)
    (cut : c.keep < c.items.length) (limit : Nat) (hasSummary resumable : Bool) :
    Shortened c.step (trimmedStep c limit hasSummary resumable) (c.items.length - c.keep) where
  rows := by
    refine ⟨c.items, c.items.take c.keep, drawn.items, trimmedStep_data c limit hasSummary resumable,
      List.take_prefix _ _, ?_, by omega⟩
    rw [List.length_take]
    omega
  omittedItems := by
    simp [trimmedStep, Assoc.lookup_put, Int.ofNat_sub drawn.keep]
  truncated := by simp [trimmedStep, Assoc.lookup_put]
  nextCursor := by simp [trimmedStep, Assoc.lookup_put, Assoc.lookup_drop]
  others := by
    intro key other
    simp only [List.mem_cons, List.not_mem_nil, or_false, not_or] at other
    obtain ⟨data, omitted, truncated, cursor, message⟩ := other
    simp [trimmedStep, Assoc.lookup_put, Assoc.lookup_drop, data, omitted, truncated, cursor, message]

section Marshalling

variable {enc : Encoder} {out : Object} {limit : Nat} {hasSummary : Bool} {resumable : String → Bool}

def AllMarshal (enc : Encoder) (depth : Nat) (fields : Object) : Prop :=
  ∀ e ∈ fields, Marshals enc depth e.2

theorem AllMarshal.put {depth : Nat} {fields : Object} (all : AllMarshal enc depth fields)
    (key : String) {v : Value} (marshals : Marshals enc depth v) :
    AllMarshal enc depth (Assoc.put key v fields) := by
  intro e member
  rcases Assoc.mem_of_mem_put member with rfl | old
  · exact marshals
  · exact all e old

theorem AllMarshal.drop {depth : Nat} {fields : Object} (all : AllMarshal enc depth fields)
    (key : String) : AllMarshal enc depth (Assoc.drop key fields) := by
  intro e member
  exact all e (Assoc.mem_drop_iff.mp member).1

theorem AllMarshal.lookup {depth : Nat} {fields : Object} (all : AllMarshal enc depth fields)
    {key : String} {v : Value} (found : fields.lookup key = some v) : Marshals enc depth v :=
  all _ (Assoc.mem_of_lookup found)

theorem Drawn.marshals {c : BoundCandidate} (drawn : Drawn out c) (all : AllMarshal enc 1 out) :
    AllMarshal enc 2 c.step ∧ ∀ v ∈ c.items, Marshals enc 3 v := by
  have step : AllMarshal enc 2 c.step :=
    marshals_obj.mp (all.lookup (Object.obj?_eq_some.mp drawn.step))
  exact ⟨step, marshals_arr.mp (step.lookup (Object.arr?_eq_some.mp drawn.items))⟩

theorem trimmedStep_marshals {c : BoundCandidate} (drawn : Drawn out c) (all : AllMarshal enc 1 out)
    (limit : Nat) (hasSummary resumable : Bool) :
    AllMarshal enc 2 (trimmedStep c limit hasSummary resumable) := by
  obtain ⟨step, rows⟩ := drawn.marshals all
  have data := (step.drop "nextCursor").put "data" (v := .arr (c.items.take c.keep))
    (marshals_arr.mpr fun v member => rows v (List.mem_of_mem_take member))
  have flag := data.put "truncated" (v := .bool true) rfl
  have count := flag.put "omittedItems" (v := .int (c.items.length - c.keep)) rfl
  exact count.put "truncatedMessage" rfl

theorem build_marshals {cands : List BoundCandidate} (drawn : ∀ c ∈ cands, Drawn out c)
    (all : AllMarshal enc 1 out) :
    AllMarshal enc 1 (build out limit hasSummary resumable cands) := by
  have folded : ∀ cp : Object, AllMarshal enc 1 cp → AllMarshal enc 1 (cands.foldl (fun cp c =>
      if c.keep < c.items.length then
        Assoc.put c.id (.obj (trimmedStep c limit hasSummary (resumable c.id))) cp
      else cp) cp) := by
    induction cands with
    | nil => exact fun _ start => start
    | cons c rest ih =>
        intro cp start
        obtain ⟨first, later⟩ := List.forall_mem_cons.mp drawn
        refine ih later _ ?_
        dsimp only
        split_ifs
        · exact start.put _ (marshals_obj.mpr (trimmedStep_marshals first all _ _ _))
        · exact start
  exact folded out all

end Marshalling

theorem mem_trimmedSteps {cands : List BoundCandidate} {id : String} :
    id ∈ (report cands).trimmedSteps ↔ ∃ c ∈ cands, c.keep < c.items.length ∧ c.id = id := by
  simp [report, Nat.sub_eq_zero_iff_le, and_assoc]

theorem trimmedSteps_sublist (cands : List BoundCandidate) :
    (report cands).trimmedSteps.Sublist (cands.map BoundCandidate.id) :=
  List.filter_sublist.map _

def omitted (cands : List BoundCandidate) (id : String) : Nat :=
  ((cands.find? fun c => c.id = id).map fun c => c.items.length - c.keep).getD 0

theorem omitted_eq {cands : List BoundCandidate} (distinct : (cands.map BoundCandidate.id).Nodup)
    {c : BoundCandidate} (member : c ∈ cands) : omitted cands c.id = c.items.length - c.keep := by
  induction cands with
  | nil => cases member
  | cons d rest ih =>
      obtain ⟨fresh, distinct⟩ := List.nodup_cons.mp distinct
      rw [omitted, List.find?_cons]
      rcases List.mem_cons.mp member with rfl | later
      · simp
      · have apart : d.id ≠ c.id := by
          intro same
          exact fresh (List.mem_map.mpr ⟨c, later, same.symm⟩)
        simpa [apart, omitted] using ih distinct later

theorem sum_omitted {cands : List BoundCandidate} (distinct : (cands.map BoundCandidate.id).Nodup) :
    ((report cands).trimmedSteps.map (omitted cands)).sum = (report cands).omittedItems := by
  rw [report]
  dsimp only
  rw [List.map_map]
  congr 1
  refine List.map_congr_left fun c member => ?_
  exact omitted_eq distinct (List.mem_of_mem_filter member)

def dataOf (out : Object) (id : String) : Option Value := (out.obj? id).bind (·.lookup "data")

structure CutTo (enc : Encoder) (strategy : ResultStrategy) (limit : Nat) (out out' : Object)
    (rep : BoundReport) : Prop where
  fits : ∃ n, (jsonMeter enc).textSize out' = some n ∧ n ≤ limit
  sorted : rep.trimmedSteps.Pairwise (· < ·)
  named : ∀ id, id ∈ rep.trimmedSteps ↔ dataOf out' id ≠ dataOf out id
  shortened : ∃ omitted : String → Nat, (rep.trimmedSteps.map omitted).sum = rep.omittedItems ∧
    ∀ id ∈ rep.trimmedSteps, ∃ step step', out.obj? id = some step ∧ out'.obj? id = some step' ∧
      Shortened step step' (omitted id)
  others : ∀ id ∉ rep.trimmedSteps, out'.lookup id = out.lookup id
  summary : strategy.strategy = "postProcess" → out'.lookup "summary" = out.lookup "summary"
  keys : out'.map Prod.fst = out.map Prod.fst

theorem Shortened.data_ne {step step' : Object} {omitted : Nat} (short : Shortened step step' omitted) :
    step'.lookup "data" ≠ step.lookup "data" := by
  obtain ⟨items, kept, before, after, -, count, positive⟩ := short.rows
  rw [Object.arr?_eq_some.mp before, Object.arr?_eq_some.mp after]
  intro same
  obtain rfl := Value.arr.inj (Option.some.inj same)
  omega

section Cut

variable {enc : Encoder} {strategy : ResultStrategy} {resumable : String → Bool} {out : Object}
  {size limit : Nat} {cands : List BoundCandidate}

theorem Trims.nodup {meter : Meter} {hasSummary : Bool} (trims : Trims meter out hasSummary cands)
    (distinct : (out.map Prod.fst).Nodup) : (cands.map BoundCandidate.id).Pairwise (· < ·) := by
  rw [trims.ids]
  exact candidates_sorted meter out hasSummary distinct

theorem build_cutTo {meter : Meter} (distinct : (out.map Prod.fst).Nodup)
    (all : AllMarshal enc 1 out) (trims : Trims meter out (hasSummary strategy) cands)
    (fits : ((jsonMeter enc).textSize
      (build out limit (hasSummary strategy) resumable cands)).getD 0 ≤ limit) :
    CutTo enc strategy limit out (build out limit (hasSummary strategy) resumable cands)
      (report cands) := by
  have order := trims.nodup distinct
  have once : (cands.map BoundCandidate.id).Nodup := order.imp fun less => ne_of_lt less
  have untouched : ∀ id, (∀ c ∈ cands, c.id = id → ¬ c.keep < c.items.length) →
      (build out limit (hasSummary strategy) resumable cands).lookup id = out.lookup id := by
    intro id full
    by_cases listed : id ∈ cands.map BoundCandidate.id
    · obtain ⟨c, member, rfl⟩ := List.mem_map.mp listed
      rw [build_lookup once member (trims.drawn c member).step, cutTo, if_neg (full c member rfl),
        Object.obj?_eq_some.mp (trims.drawn c member).step]
    · exact build_lookup_other listed
  have short : ∀ c ∈ cands, c.keep < c.items.length →
      (build out limit (hasSummary strategy) resumable cands).obj? c.id =
          some (trimmedStep c limit (hasSummary strategy) (resumable c.id)) ∧
        Shortened c.step (trimmedStep c limit (hasSummary strategy) (resumable c.id))
          (omitted cands c.id) := by
    intro c member cut
    have drawn := trims.drawn c member
    rw [omitted_eq once member, Object.obj?_eq_some, build_lookup once member drawn.step, cutTo,
      if_pos cut]
    exact ⟨rfl, trimmedStep_shortened drawn cut limit _ _⟩
  have others : ∀ id ∉ (report cands).trimmedSteps,
      (build out limit (hasSummary strategy) resumable cands).lookup id = out.lookup id := by
    intro id other
    refine untouched id fun c member same cut => other ?_
    exact mem_trimmedSteps.mpr ⟨c, member, cut, same⟩
  constructor
  case fits =>
    have marshals : Marshals enc 0 (.obj (build out limit (hasSummary strategy) resumable cands)) :=
      marshals_obj.mpr (build_marshals trims.drawn all)
    exact ⟨_, textLen_of_marshals marshals, fits⟩
  case sorted => exact order.sublist (trimmedSteps_sublist cands)
  case named =>
    intro id
    constructor
    · intro listed
      obtain ⟨c, member, cut, rfl⟩ := mem_trimmedSteps.mp listed
      obtain ⟨here, cut⟩ := short c member cut
      rw [dataOf, dataOf, here, (trims.drawn c member).step]
      exact cut.data_ne
    · intro changed
      by_contra other
      rw [dataOf, dataOf, Object.obj?, Object.obj?, others id other] at changed
      exact changed rfl
  case shortened =>
    refine ⟨omitted cands, sum_omitted once, fun id listed => ?_⟩
    obtain ⟨c, member, cut, rfl⟩ := mem_trimmedSteps.mp listed
    exact ⟨_, _, (trims.drawn c member).step, short c member cut⟩
  case others => exact others
  case summary =>
    intro post
    refine untouched "summary" fun c member same => ?_
    have summary : hasSummary strategy = true := by simpa [hasSummary] using post
    have listed : c.id ∈ (candidates meter out true).map BoundCandidate.id := by
      rw [← summary, ← trims.ids]
      exact List.mem_map_of_mem member
    obtain ⟨d, source, alike⟩ := List.mem_map.mp listed
    exact absurd (alike.trans same) (summary_not_candidate meter out d source)
  case keys =>
    refine build_keys fun c member => ?_
    exact Assoc.mem_keys_iff.mpr ⟨_, Object.obj?_eq_some.mp (trims.drawn c member).step⟩

theorem report_of_trims {meter : Meter} {hasSummary : Bool} (trims : Trims meter out hasSummary cands) :
    (report cands).truncated = true ∧ (report cands).unbounded = false := by
  obtain ⟨c, member, cut⟩ := trims.cut
  refine ⟨?_, rfl⟩
  have kept : (cands.filter fun c => c.items.length - c.keep ≠ 0) ≠ [] := by
    refine List.ne_nil_of_mem (a := c) (List.mem_filter.mpr ⟨member, ?_⟩)
    simpa [Nat.sub_eq_zero_iff_le] using cut
  simpa [report] using kept

end Cut

end BrokerMcp.Proof.Composite
