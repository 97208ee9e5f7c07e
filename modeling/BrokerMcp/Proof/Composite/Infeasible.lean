import BrokerMcp.Proof.Composite.Bounded
import Mathlib.Algebra.Order.BigOperators.Group.List

namespace BrokerMcp.Proof.Composite
open BrokerMcp.Composite

section Note

variable {kept total : Nat} (limit : Nat) (hasSummary resumable : Bool)

theorem toString_text (s : String) : toString s = s := rfl

theorem boundMessage_emptied (within : kept ≤ total) :
    escapedLens (boundMessage 0 total limit hasSummary) ≤
      escapedLens (boundMessage kept total limit hasSummary) + kept := by
  have missing := digits_add_le (total - kept) kept
  have shown : (Nat.toDigits 10 0).length ≤ (Nat.toDigits 10 kept).length :=
    Nat.length_toDigits_pos
  rw [Nat.sub_add_cancel within] at missing
  unfold boundMessage
  simp only [escapedLens_append, toString_text, escapedLens_toString, Nat.sub_zero]
  omega

theorem boundNote_emptied (prev : String) (within : kept ≤ total) :
    escapedLens (boundNote prev 0 total limit hasSummary resumable) ≤
      escapedLens (boundNote prev kept total limit hasSummary resumable) + kept := by
  have message := boundMessage_emptied limit hasSummary within
  have none : escapedLens "" = 0 := rfl
  unfold boundNote
  dsimp only
  rw [if_neg (show ¬ (resumable && decide (0 > 0)) = true by simp)]
  split_ifs <;> simp only [escapedLens_append, none] <;> omega

end Note

section Step

variable {enc : Encoder} {out : Object} {c : BoundCandidate}

theorem sum_trimmedStep (g : String × Value → Nat) (c : BoundCandidate) (limit : Nat)
    (hasSummary resumable : Bool) :
    ∃ fixed old, ∀ keep, ((trimmedStep { c with keep } limit hasSummary resumable).map g).sum + old =
      fixed + g ("data", .arr (c.items.take keep)) +
        g ("omittedItems", .int (c.items.length - keep)) +
        g ("truncatedMessage", .str (boundNote ((c.step.str? "truncatedMessage").getD "") keep
          c.items.length limit hasSummary (resumable || (c.step.lookup "nextCursor").isSome))) := by
  obtain ⟨base, source⟩ : ∃ base, base = Assoc.drop "nextCursor" c.step := ⟨_, rfl⟩
  refine ⟨(base.map g).sum + g ("truncated", .bool true),
    (["data", "truncated", "omittedItems", "truncatedMessage"].map fun key =>
      (base.lookup key).elim 0 fun v => g (key, v)).sum, fun keep => ?_⟩
  have data := Assoc.sum_map_put g "data" (.arr (c.items.take keep)) base
  have flag := Assoc.sum_map_put g "truncated" (.bool true)
    (Assoc.put "data" (.arr (c.items.take keep)) base)
  have count := Assoc.sum_map_put g "omittedItems" (.int (c.items.length - keep))
    (Assoc.put "truncated" (.bool true) (Assoc.put "data" (.arr (c.items.take keep)) base))
  have note := Assoc.sum_map_put g "truncatedMessage"
    (.str (boundNote ((c.step.str? "truncatedMessage").getD "") keep
      c.items.length limit hasSummary (resumable || (c.step.lookup "nextCursor").isSome)))
    (Assoc.put "omittedItems" (.int (c.items.length - keep))
      (Assoc.put "truncated" (.bool true) (Assoc.put "data" (.arr (c.items.take keep)) base)))
  simp only [Assoc.lookup_put, String.reduceEq, if_false] at flag count note
  rw [trimmedStep, ← source]
  simp only [List.map_cons, List.map_nil, List.sum_cons, List.sum_nil]
  omega

theorem trimmedStep_emptied (drawn : Drawn out c) (all : AllMarshal enc 1 out) (limit : Nat)
    (hasSummary resumable : Bool) {keep : Nat} (within : keep ≤ c.items.length) :
    size enc 1 (.obj (trimmedStep { c with keep := 0 } limit hasSummary resumable)) ≤
      size enc 1 (.obj (trimmedStep { c with keep } limit hasSummary resumable)) := by
  have marshals : ∀ keep ≤ c.items.length, Marshals enc 1
      (.obj (trimmedStep { c with keep } limit hasSummary resumable)) := by
    intro keep within
    exact marshals_obj.mpr
      (trimmedStep_marshals (c := { c with keep }) ⟨drawn.step, drawn.items, within⟩ all _ _ _)
  have filled : ∀ keep, trimmedStep { c with keep } limit hasSummary resumable ≠ [] := by
    intro keep none
    have data := trimmedStep_data { c with keep } limit hasSummary resumable
    rw [none] at data
    cases data
  rcases Nat.eq_zero_or_pos keep with rfl | positive
  · exact le_rfl
  rw [size_obj (marshals 0 (Nat.zero_le _)) (filled 0), size_obj (marshals keep within) (filled keep)]
  obtain ⟨fixed, old, sums⟩ := sum_trimmedStep (weight enc 1) c limit hasSummary resumable
  have none := sums 0
  have some := sums keep
  have note := boundNote_emptied limit hasSummary (resumable || (c.step.lookup "nextCursor").isSome)
    ((c.step.str? "truncatedMessage").getD "") within
  have data : Marshals enc 2 (.arr (c.items.take keep)) :=
    marshals_arr.mpr fun v member => (drawn.marshals all).2 v (List.mem_of_mem_take member)
  have rows := le_size_arr data (by
    intro empty
    have none := congrArg List.length empty
    rw [List.length_take, List.length_nil] at none
    omega)
  have missing := digits_add_le (c.items.length - keep) keep
  rw [Nat.sub_add_cancel within] at missing
  rw [List.length_take, Nat.min_eq_left within] at rows
  rw [← Int.ofNat_sub within] at some
  rw [← Int.ofNat_sub (Nat.zero_le _)] at none
  have text : ∀ s, size enc 2 (.str s) = escapedLens s + 2 := fun _ => rfl
  simp only [weight, Nat.reduceAdd, size_nat, text, List.take_zero, size_arr_nil, Nat.sub_zero]
    at none some
  omega

end Step

section Result

variable {enc : Encoder} {out : Object} (limit : Nat) (hasSummary : Bool) (resumable : String → Bool)

theorem sum_build (g : String × Value → Nat) {cands : List BoundCandidate}
    (distinct : (cands.map BoundCandidate.id).Nodup)
    (drawn : ∀ c ∈ cands, out.obj? c.id = some c.step) :
    ((build out limit hasSummary resumable cands).map g).sum +
        (cands.map fun c => g (c.id, .obj c.step)).sum =
      (out.map g).sum +
        (cands.map fun c => g (c.id, .obj (cutTo limit hasSummary resumable c))).sum := by
  induction cands generalizing out with
  | nil => rfl
  | cons c rest ih =>
      obtain ⟨fresh, distinct⟩ := List.nodup_cons.mp distinct
      obtain ⟨first, later⟩ := List.forall_mem_cons.mp drawn
      rw [build_cons, List.map_cons, List.map_cons, List.sum_cons, List.sum_cons, cutTo]
      split_ifs with short
      · have put := Assoc.sum_map_put g c.id
          (.obj (trimmedStep c limit hasSummary (resumable c.id))) out
        rw [Object.obj?_eq_some.mp first, Option.elim_some] at put
        have others : ∀ d ∈ rest, Object.obj? (Assoc.put c.id
            (.obj (trimmedStep c limit hasSummary (resumable c.id))) out) d.id = some d.step := by
          intro d member
          have apart : d.id ≠ c.id := fun same => fresh (List.mem_map.mpr ⟨d, member, same⟩)
          rw [Object.obj?, Assoc.lookup_put, if_neg apart]
          exact later d member
        have rest := ih distinct others
        omega
      · have rest := ih distinct later
        omega

def chosen (out : Object) (limit : Nat) (hasSummary : Bool) (resumable : String → Bool)
    (cands : List BoundCandidate) (keeps : BoundCandidate → Nat) : Object :=
  build out limit hasSummary resumable (cands.map fun c => { c with keep := keeps c })

def shorter (enc : Encoder) (limit : Nat) (hasSummary : Bool) (resumable : String → Bool)
    (c : BoundCandidate) : Nat :=
  if size enc 1 (.obj (trimmedStep { c with keep := 0 } limit hasSummary (resumable c.id))) ≤
      size enc 1 (.obj c.step) then 0
  else c.items.length

theorem shorter_le (c : BoundCandidate) :
    shorter enc limit hasSummary resumable c ≤ c.items.length := by
  unfold shorter
  split_ifs
  · exact Nat.zero_le _
  · exact le_rfl

theorem cutTo_shorter {c : BoundCandidate} (drawn : Drawn out c) (some : c.items ≠ [])
    (all : AllMarshal enc 1 out) {keep : Nat} (within : keep ≤ c.items.length) :
    size enc 1 (.obj (cutTo limit hasSummary resumable
        { c with keep := shorter enc limit hasSummary resumable c })) ≤
      size enc 1 (.obj (cutTo limit hasSummary resumable { c with keep })) := by
  have positive := List.length_pos_iff.mpr some
  have emptied := trimmedStep_emptied drawn all limit hasSummary (resumable c.id) within
  unfold cutTo shorter
  dsimp only
  split_ifs <;> omega

theorem size_chosen {cands : List BoundCandidate} (drawn : ∀ c ∈ cands, Drawn out c)
    (distinct : (cands.map BoundCandidate.id).Nodup) (all : AllMarshal enc 1 out) (filled : out ≠ [])
    {keeps : BoundCandidate → Nat} (within : ∀ c ∈ cands, keeps c ≤ c.items.length) :
    ∃ n, (jsonMeter enc).textSize (chosen out limit hasSummary resumable cands keeps) = some n ∧
      n + (cands.map fun c => weight enc 0 (c.id, .obj c.step)).sum =
        size enc 0 (.obj out) + (cands.map fun c =>
          weight enc 0 (c.id, .obj (cutTo limit hasSummary resumable { c with keep := keeps c }))).sum := by
  have kept : ∀ c ∈ cands.map fun c => { c with keep := keeps c }, Drawn out c := by
    refine List.forall_mem_map.mpr fun c member => ?_
    exact ⟨(drawn c member).step, (drawn c member).items, within c member⟩
  have ids : (cands.map fun c => { c with keep := keeps c }).map BoundCandidate.id =
      cands.map BoundCandidate.id := by
    rw [List.map_map]
    rfl
  have marshals : Marshals enc 0 (.obj (chosen out limit hasSummary resumable cands keeps)) :=
    marshals_obj.mpr (build_marshals kept all)
  have nonempty : chosen out limit hasSummary resumable cands keeps ≠ [] := by
    intro none
    have keys : (chosen out limit hasSummary resumable cands keeps).map Prod.fst =
        out.map Prod.fst := by
      refine build_keys fun c member => ?_
      exact Assoc.mem_keys_iff.mpr ⟨_, Object.obj?_eq_some.mp (kept c member).step⟩
    rw [none] at keys
    exact filled (List.map_eq_nil_iff.mp keys.symm)
  have sums := sum_build limit hasSummary resumable (weight enc 0) (ids ▸ distinct) fun c member => (kept c member).step
  simp only [List.map_map, Function.comp_def] at sums
  refine ⟨_, textLen_of_marshals marshals, ?_⟩
  rw [size_obj marshals nonempty, size_obj (marshals_obj.mpr all) filled, chosen]
  omega

variable (enc) in
def TextFits (v : Object) : Prop := ∃ n, (jsonMeter enc).textSize v = some n ∧ n ≤ limit

/-- If some choice of rows fits, the shorter of empty and whole does for each step. -/
theorem fits_shorter {cands : List BoundCandidate} (drawn : ∀ c ∈ cands, Drawn out c)
    (rows : ∀ c ∈ cands, c.items ≠ []) (distinct : (cands.map BoundCandidate.id).Nodup)
    (all : AllMarshal enc 1 out) (filled : out ≠ []) {keeps : BoundCandidate → Nat}
    (within : ∀ c ∈ cands, keeps c ≤ c.items.length)
    (fits : TextFits enc limit (chosen out limit hasSummary resumable cands keeps)) :
    TextFits enc limit (chosen out limit hasSummary resumable cands
      (shorter enc limit hasSummary resumable)) := by
  obtain ⟨n, measured, small⟩ := fits
  obtain ⟨n', measured', sum⟩ := size_chosen limit hasSummary resumable drawn distinct
    all filled within
  obtain rfl := Option.some.inj (measured.symm.trans measured')
  obtain ⟨m, shortest, sum'⟩ := size_chosen limit hasSummary resumable drawn distinct
    all filled fun c _ => shorter_le limit hasSummary resumable c
  have steps : (cands.map fun c => weight enc 0 (c.id, .obj (cutTo limit hasSummary resumable
        { c with keep := shorter enc limit hasSummary resumable c }))).sum ≤
      (cands.map fun c =>
        weight enc 0 (c.id, .obj (cutTo limit hasSummary resumable { c with keep := keeps c }))).sum := by
    refine List.sum_le_sum fun c member => ?_
    have one := cutTo_shorter limit hasSummary resumable (drawn c member) (rows c member) all (within c member)
    simp only [weight, Nat.zero_add]
    omega
  exact ⟨m, shortest, by omega⟩

end Result

section Response

variable {enc : Encoder} {strategy : ResultStrategy} {resumable : String → Bool} {out : Object}
  {size limit : Nat}

section Definitions

variable (enc strategy resumable out size limit)

def stepsWithRows : List BoundCandidate := candidates (jsonMeter enc) out (hasSummary strategy)

def keeping (keeps : BoundCandidate → Nat) : Object :=
  chosen out limit (hasSummary strategy) resumable (stepsWithRows enc strategy out) keeps

def UnboundedIsFinal : Prop :=
  (boundResponse (jsonMeter enc) strategy resumable out size limit).2.unbounded = true →
    ∀ keeps : BoundCandidate → Nat, (∀ c ∈ stepsWithRows enc strategy out, keeps c ≤ c.items.length) →
      ¬ TextFits enc limit (keeping enc strategy resumable out limit keeps)

def shorterSteps : Object :=
  keeping enc strategy resumable out limit (shorter enc limit (hasSummary strategy) resumable)

end Definitions

theorem unbounded_iff (large : limit < size) :
    (boundResponse (jsonMeter enc) strategy resumable out size limit).2.unbounded = true ↔
      stepsWithRows enc strategy out = [] ∨
      ¬ TextFits enc limit (keeping enc strategy resumable out limit fun _ => 0) := by
  unfold boundResponse
  dsimp only
  rw [← hasSummary, if_neg (not_le.mpr large), ← stepsWithRows, ← chosen, ← keeping]
  have fits : ∀ v, ((jsonMeter enc).textSize v).any (fun n => decide (n ≤ limit)) = true ↔
      TextFits enc limit v := by
    intro v
    rw [Option.any_eq_true, TextFits]
    simp
  split_ifs with stuck
  · simp only [Bool.or_eq_true, List.isEmpty_iff, Bool.not_eq_true', ← Bool.not_eq_true] at stuck
    rw [fits] at stuck
    exact iff_of_true rfl stuck
  · simp only [Bool.or_eq_true, List.isEmpty_iff, Bool.not_eq_true', ← Bool.not_eq_true] at stuck
    rw [fits] at stuck
    refine iff_of_false ?_ stuck
    simp [report]

theorem unbounded_final_iff (enc : Encoder) (strategy : ResultStrategy) (resumable : String → Bool)
    (distinct : (out.map Prod.fst).Nodup) (measured : (jsonMeter enc).textSize out = some size)
    (large : limit < size) :
    UnboundedIsFinal enc strategy resumable out size limit ↔
      stepsWithRows enc strategy out = [] ∨
      TextFits enc limit (keeping enc strategy resumable out limit fun _ => 0) ∨
      ¬ TextFits enc limit (shorterSteps enc strategy resumable out limit) := by
  have drawn := candidates_drawn (jsonMeter enc) out (hasSummary strategy)
  have once : ((stepsWithRows enc strategy out).map BoundCandidate.id).Nodup :=
    (candidates_sorted _ _ _ distinct).imp fun less => ne_of_lt less
  have all : AllMarshal enc 1 out := marshals_obj.mp (Option.isSome_iff_exists.mpr ⟨size, measured⟩)
  rw [UnboundedIsFinal, unbounded_iff large]
  constructor
  · intro final
    by_contra helped
    simp only [not_or, not_not] at helped
    obtain ⟨-, exceeds, fits⟩ := helped
    exact final (.inr exceeds) _ (fun c _ => shorter_le _ _ _ c) fits
  · intro condition stuck keeps within fits
    by_cases none : stepsWithRows enc strategy out = []
    · obtain ⟨n, whole, small⟩ := fits
      rw [keeping, none] at whole
      obtain rfl := Option.some.inj (measured.symm.trans whole)
      omega
    · rcases condition with empty | emptied | exceeds
      · exact none empty
      · exact stuck.resolve_left none emptied
      · refine exceeds (fits_shorter limit _ resumable drawn (fun c member => (candidates_fresh _ _ _ c member).1) once all
          ?_ within fits)
        rintro rfl
        exact none (by simp [stepsWithRows, candidates])

end Response

theorem escapedLens_literal {l : List Char} {n : Nat} (counted : (l.map escapedLen).sum = n) :
    escapedLens (String.ofList l) = n := by
  rw [escapedLens, String.toList_ofList, counted]

theorem trimSuffix_empty (suffix : String) : trimSuffix "" suffix = "" := by
  unfold trimSuffix
  split_ifs
  · simp
  · rfl

theorem emptied_note (total : Nat) :
    quotedLen (boundNote "" 0 total 500 false false) = 229 + 2 * (Nat.toDigits 10 total).length := by
  have first : escapedLens "Response size limit reached: this step returned " = 48 :=
    escapedLens_literal rfl
  have second : escapedLens "omitted) to stay under " = 23 := escapedLens_literal rfl
  have third : escapedLens
      " The omitted rows are not in this response; to see specific ones, narrow the query (for " =
      88 := escapedLens_literal rfl
  have fourth : escapedLens "example to one queue, client or Message VPN)." = 45 :=
    escapedLens_literal rfl
  have short : escapedLens " of " = 4 ∧ escapedLens " rows (" = 7 ∧ escapedLens " " = 1 ∧
      escapedLens " bytes." = 7 ∧ escapedLens "" = 0 := by decide +kernel
  have digits : (Nat.toDigits 10 0).length = 1 ∧ (Nat.toDigits 10 500).length = 3 := by decide
  unfold quotedLen boundNote boundMessage
  simp only [trimSuffix_empty, if_true, Bool.false_and, Bool.false_eq_true, if_false,
    escapedLens_append, toString_text, escapedLens_toString, Nat.sub_zero, first, second, third,
    fourth, short, digits]
  omega

def plain : Encoder := ⟨fun _ => none⟩

def fortyRows : List Value := List.replicate 40 (.bool true)

def oneAndForty : Object :=
  [("clients", .obj [("data", .arr [.bool true])]), ("queues", .obj [("data", .arr fortyRows)])]

def emptiedStep (total : Nat) : Value :=
  .obj [("data", .arr []), ("truncated", .bool true), ("omittedItems", .int total),
    ("truncatedMessage", .str (boundNote "" 0 total 500 false false))]

theorem emptiedStep_length (total : Nat) :
    textLen plain 1 (emptiedStep total) = some (320 + 3 * (Nat.toDigits 10 total).length) := by
  have keys : quotedLen "data" = 6 ∧ quotedLen "truncated" = 11 ∧ quotedLen "omittedItems" = 14 ∧
      quotedLen "truncatedMessage" = 18 := by decide +kernel
  have count : (toString (total : Int)).utf8ByteSize = (Nat.toDigits 10 total).length :=
    @size_nat plain 2 total
  simp only [emptiedStep, textLen, fieldLens, itemLens, emptied_note, keys, count]
  simp only [Option.pure_def, Option.bind_eq_bind, Option.bind_some, Option.map_some, block, lineBreak,
    if_true, reduceCtorEq, if_false, List.map_cons, List.map_nil, List.sum_cons, List.sum_nil,
    List.length_cons, List.length_nil, Option.some.injEq]
  omega

theorem oneAndForty_candidates :
    stepsWithRows plain ⟨"collect", "", false⟩ oneAndForty =
      [⟨"clients", [("data", .arr [.bool true])], [.bool true], [12], 1, 12⟩,
        ⟨"queues", [("data", .arr fortyRows)], fortyRows, List.replicate 40 12, 40, 480⟩] := by
  have sorted : (["clients", "queues"].mergeSort fun a b => decide (a ≤ b)) = ["clients", "queues"] :=
    List.mergeSort_of_pairwise (by decide)
  have ids : (oneAndForty.map Prod.fst).filter (fun id => !(false && id = "summary")) =
      ["clients", "queues"] := by decide
  rw [stepsWithRows, candidates, show hasSummary ⟨"collect", "", false⟩ = false by decide, ids, sorted]
  rfl

theorem one_row_left_would_fit :
    (jsonMeter plain).textSize oneAndForty = some 571 ∧
    ¬ UnboundedIsFinal plain ⟨"collect", "", false⟩ (fun _ => false) oneAndForty 571 500 := by
  have keys : quotedLen "clients" = 9 ∧ quotedLen "queues" = 8 := by decide +kernel
  have steps := oneAndForty_candidates
  have emptied : keeping plain ⟨"collect", "", false⟩ (fun _ => false) oneAndForty 500 (fun _ => 0) =
      [("clients", emptiedStep 1), ("queues", emptiedStep 40)] := by
    rw [keeping, steps]
    rfl
  have kept : keeping plain ⟨"collect", "", false⟩ (fun _ => false) oneAndForty 500
      (fun c => if c.id = "queues" then 0 else 1) =
      [("clients", .obj [("data", .arr [.bool true])]), ("queues", emptiedStep 40)] := by
    rw [keeping, steps]
    rfl
  have exceeds : textLen plain 0 (.obj [("clients", emptiedStep 1), ("queues", emptiedStep 40)]) =
      some 680 := by
    simp only [textLen, fieldLens, Nat.zero_add, emptiedStep_length, keys]
    decide
  have under : textLen plain 0 (.obj [("clients", .obj [("data", .arr [.bool true])]),
      ("queues", emptiedStep 40)]) = some 393 := by
    simp only [textLen, fieldLens, itemLens, Nat.zero_add, emptiedStep_length, keys]
    decide +kernel
  refine ⟨by decide +kernel, fun final => ?_⟩
  refine final ((unbounded_iff (by decide)).mpr (.inr ?_)) (fun c => if c.id = "queues" then 0 else 1)
    ?_ ⟨393, kept ▸ under, by decide⟩
  · rintro ⟨n, measured, small⟩
    rw [emptied] at measured
    obtain rfl := Option.some.inj (exceeds.symm.trans measured)
    omega
  · rw [steps]
    decide

theorem unbounded_final_iff_one_and_forty :
    UnboundedIsFinal plain ⟨"collect", "", false⟩ (fun _ => false) oneAndForty 571 500 ↔
      stepsWithRows plain ⟨"collect", "", false⟩ oneAndForty = [] ∨
      TextFits plain 500 (keeping plain ⟨"collect", "", false⟩ (fun _ => false) oneAndForty 500 fun _ => 0) ∨
      ¬ TextFits plain 500 (shorterSteps plain ⟨"collect", "", false⟩ (fun _ => false) oneAndForty 500) :=
  unbounded_final_iff plain _ _ (by decide) (by decide +kernel) (by decide)

def fortyQueues : Object := [("queues", .obj [("data", .arr fortyRows)])]

theorem fortyQueues_candidates :
    stepsWithRows plain ⟨"collect", "", false⟩ fortyQueues =
      [⟨"queues", [("data", .arr fortyRows)], fortyRows, List.replicate 40 12, 40, 480⟩] := by
  have ids : (fortyQueues.map Prod.fst).filter (fun id => !(false && id = "summary")) =
      ["queues"] := by decide
  rw [stepsWithRows, candidates, show hasSummary ⟨"collect", "", false⟩ = false by decide, ids,
    List.mergeSort_singleton]
  rfl

theorem fortyQueues_truncated :
    (boundResponse (jsonMeter plain) ⟨"collect", "", false⟩ (fun _ => false) fortyQueues 520
      500).2.truncated = true := by
  have key : quotedLen "queues" = 8 := by decide +kernel
  have under : textLen plain 0 (.obj [("queues", emptiedStep 40)]) = some 342 := by
    simp only [textLen, fieldLens, Nat.zero_add, emptiedStep_length, key]
    decide
  have emptied : keeping plain ⟨"collect", "", false⟩ (fun _ => false) fortyQueues 500 (fun _ => 0) =
      [("queues", emptiedStep 40)] := by
    rw [keeping, fortyQueues_candidates]
    rfl
  rcases boundResponse_cases (jsonMeter plain) ⟨"collect", "", false⟩ (fun _ => false) fortyQueues 520
    500 with ⟨small, -⟩ | ⟨large, made⟩ | ⟨-, cands, trims, -, made⟩
  · omega
  · have stuck : (boundResponse (jsonMeter plain) ⟨"collect", "", false⟩ (fun _ => false) fortyQueues
        520 500).2.unbounded = true := by rw [made]
    rw [unbounded_iff large, fortyQueues_candidates, emptied] at stuck
    exact absurd ⟨342, under, by decide⟩ (stuck.resolve_left (List.cons_ne_nil _ _))
  · rw [made]
    exact (report_of_trims trims).1

end BrokerMcp.Proof.Composite
