import BrokerMcp.Composite.Bound

namespace BrokerMcp.Proof.Composite
open BrokerMcp.Composite

structure Drawn (out : Object) (c : BoundCandidate) : Prop where
  step : out.obj? c.id = some c.step
  items : c.step.arr? "data" = some c.items
  keep : c.keep ≤ c.items.length

theorem candidate_drawn {meter : Meter} {out : Object} {id : String} {c : BoundCandidate}
    (found : candidate meter out id = some c) : Drawn out c := by
  unfold candidate at found
  obtain ⟨step, present, found⟩ := Option.bind_eq_some_iff.mp found
  obtain ⟨items, rows, found⟩ := Option.bind_eq_some_iff.mp found
  split_ifs at found
  obtain ⟨lengths, -, made⟩ := Option.bind_eq_some_iff.mp found
  obtain rfl := Option.some.inj made
  exact ⟨present, rows, le_rfl⟩

theorem candidates_drawn (meter : Meter) (out : Object) (hasSummary : Bool) :
    ∀ c ∈ candidates meter out hasSummary, Drawn out c := by
  intro c member
  obtain ⟨id, -, found⟩ := List.mem_filterMap.mp member
  exact candidate_drawn found

theorem largest_some {cands : List BoundCandidate} {i : Nat} {pick : Option (Nat × Nat)}
    {best : Nat × Nat} (found : largest cands i pick = some best) :
    pick = some best ∨ i ≤ best.1 ∧ ∃ c, cands[best.1 - i]? = some c ∧ 0 < c.keep := by
  induction cands generalizing i pick with
  | nil => exact .inl found
  | cons c rest ih =>
      rcases ih found with here | ⟨later, d, at_, kept⟩
      · split_ifs at here with better
        · obtain rfl := Option.some.inj here
          exact .inr ⟨le_rfl, c, by simp, better.1⟩
        · exact .inl here
      · refine .inr ⟨by omega, d, ?_, kept⟩
        rw [show best.1 - i = best.1 - (i + 1) + 1 by omega, List.getElem?_cons_succ]
        exact at_

theorem largest_ne_none {cands : List BoundCandidate} (i : Nat) (pick : Option (Nat × Nat))
    (some : pick.isSome = true ∨ 0 < rowsLeft cands) : (largest cands i pick).isSome = true := by
  induction cands generalizing i pick with
  | nil => simpa [rowsLeft, largest] using some
  | cons c rest ih =>
      refine ih _ _ ?_
      split_ifs with better
      · exact .inl rfl
      · rcases some with held | left
        · exact .inl held
        · cases pick with
          | some best => exact .inl rfl
          | none =>
              have spent : c.keep = 0 := by simpa using better
              exact .inr (by simpa [rowsLeft, spent] using left)

def cleared (c : BoundCandidate) : BoundCandidate := { c with keep := 0, bytes := 0 }

structure Shaved (out : Object) (before after : List BoundCandidate) : Prop where
  drawn : (∀ c ∈ before, Drawn out c) → ∀ c ∈ after, Drawn out c
  cleared : after.map cleared = before.map cleared
  left : rowsLeft after ≤ rowsLeft before

theorem Shaved.refl (out : Object) (cands : List BoundCandidate) : Shaved out cands cands :=
  ⟨id, rfl, le_rfl⟩

theorem Shaved.trans {out : Object} {first second third : List BoundCandidate}
    (early : Shaved out first second) (late : Shaved out second third) : Shaved out first third :=
  ⟨late.drawn ∘ early.drawn, late.cleared.trans early.cleared, late.left.trans early.left⟩

theorem rowsLeft_set {cands : List BoundCandidate} {i : Nat} {c : BoundCandidate}
    (found : cands[i]? = some c) (d : BoundCandidate) :
    rowsLeft (cands.set i d) + c.keep = rowsLeft cands + d.keep := by
  induction cands generalizing i with
  | nil => simp at found
  | cons e rest ih =>
      cases i with
      | zero =>
          obtain rfl : e = c := by simpa using found
          simp only [rowsLeft, List.set_cons_zero, List.map_cons, List.sum_cons]
          omega
      | succ i =>
          have tail := ih (by simpa using found)
          simp only [rowsLeft, List.set_cons_succ, List.map_cons, List.sum_cons] at tail ⊢
          omega

theorem shave_some (out : Object) {cands cands' : List BoundCandidate} {freed : Nat}
    (done : shave cands = some (freed, cands')) :
    Shaved out cands cands' ∧ rowsLeft cands' + 1 = rowsLeft cands := by
  unfold shave at done
  obtain ⟨⟨i, bytes⟩, found, done⟩ := Option.bind_eq_some_iff.mp done
  obtain ⟨c, at_, made⟩ := Option.bind_eq_some_iff.mp done
  obtain ⟨-, rfl⟩ := Prod.mk.inj (Option.some.inj made)
  have kept : 0 < c.keep := by
    rcases largest_some found with none | ⟨-, d, here, kept⟩
    · cases none
    · obtain rfl : d = c := Option.some.inj (here.symm.trans at_)
      exact kept
  have dropped := rowsLeft_set at_ { c with keep := c.keep - 1, bytes := c.bytes - c.shaved }
  dsimp only at dropped
  refine ⟨⟨?_, ?_, by omega⟩, by omega⟩
  · intro drawn d member
    rcases List.mem_or_eq_of_mem_set member with old | rfl
    · exact drawn d old
    · have source := drawn c (List.mem_of_getElem? at_)
      exact ⟨source.step, source.items, (Nat.sub_le _ _).trans source.keep⟩
  · obtain ⟨within, rfl⟩ := List.getElem?_eq_some_iff.mp at_
    have same : (cands.map cleared).set i (cleared cands[i]) = cands.map cleared := by
      rw [← List.map_set, List.set_getElem_self]
    rw [List.map_set]
    exact same

theorem shave_none {cands : List BoundCandidate} (done : shave cands = none) :
    rowsLeft cands = 0 := by
  by_contra left
  obtain ⟨best, found⟩ := Option.isSome_iff_exists.mp
    (largest_ne_none 0 none (.inr (Nat.pos_of_ne_zero left)))
  rcases largest_some found with none | ⟨-, c, at_, -⟩
  · cases none
  · rw [Nat.sub_zero] at at_
    simp [shave, found, at_] at done

theorem shaveExcess_shaved (out : Object) (rows : Nat) (excess : Int)
    (cands : List BoundCandidate) : Shaved out cands (shaveExcess rows excess cands) := by
  induction rows generalizing excess cands with
  | zero => exact .refl out cands
  | succ rows ih =>
      unfold shaveExcess
      split_ifs
      · exact .refl out cands
      · split
        · exact .refl out cands
        · rename_i freed after done
          exact (shave_some out done).1.trans (ih _ after)

theorem shaveExcess_progress (rows : Nat) {excess : Int} (cands : List BoundCandidate)
    (large : ¬ excess ≤ 0) :
    rowsLeft (shaveExcess (rows + 1) excess cands) ≤ rowsLeft cands - 1 := by
  unfold shaveExcess
  rw [if_neg large]
  cases done : shave cands with
  | none =>
      have none := shave_none done
      dsimp only
      omega
  | some result =>
      obtain ⟨freed, after⟩ := result
      have one := (shave_some [] done).2
      have rest := (shaveExcess_shaved [] rows (excess - freed) after).left
      dsimp only
      omega

inductive Shaving : Int → List BoundCandidate → List BoundCandidate → Prop
  | done {excess : Int} {cands : List BoundCandidate} (gone : excess ≤ 0) : Shaving excess cands cands
  | spent {excess : Int} {cands : List BoundCandidate} (large : ¬ excess ≤ 0)
      (none : shave cands = none) : Shaving excess cands cands
  | turn {excess : Int} {freed : Nat} {cands after last : List BoundCandidate} (large : ¬ excess ≤ 0)
      (one : shave cands = some (freed, after)) (rest : Shaving (excess - freed) after last) :
      Shaving excess cands last

inductive Measuring (meter : Meter) (limit : Nat) (make : List BoundCandidate → Object) :
    List BoundCandidate → List BoundCandidate → Prop
  | done {cands : List BoundCandidate} (fits : (meter.textSize (make cands)).getD 0 ≤ limit) :
      Measuring meter limit make cands cands
  | turn {cands after last : List BoundCandidate}
      (large : ¬ (meter.textSize (make cands)).getD 0 ≤ limit)
      (shaving : Shaving ((meter.textSize (make cands)).getD 0 - limit) cands after)
      (rest : Measuring meter limit make after last) : Measuring meter limit make cands last

theorem Measuring.fits {meter : Meter} {limit : Nat} {make : List BoundCandidate → Object}
    {cands last : List BoundCandidate} (run : Measuring meter limit make cands last) :
    (meter.textSize (make last)).getD 0 ≤ limit := by
  induction run with
  | done fits => exact fits
  | turn _ _ _ ih => exact ih

theorem shaveExcess_ends {rows : Nat} (excess : Int) {cands : List BoundCandidate}
    (enough : rowsLeft cands ≤ rows) : Shaving excess cands (shaveExcess rows excess cands) := by
  induction rows generalizing excess cands with
  | zero =>
      by_cases gone : excess ≤ 0
      · exact .done gone
      · refine .spent gone ?_
        cases one : shave cands with
        | none => rfl
        | some result =>
            have less := (shave_some [] one).2
            omega
  | succ rows ih =>
      unfold shaveExcess
      split_ifs with gone
      · exact .done gone
      · split
        · exact .spent gone ‹_›
        · rename_i freed after one
          have less := (shave_some [] one).2
          exact .turn gone one (ih _ (by omega))

section Exact

variable (meter : Meter) (out : Object) (limit : Nat) (hasSummary : Bool) (resumable : String → Bool)

theorem exactPass_shaved (make : List BoundCandidate → Object) (rows : Nat)
    (cands : List BoundCandidate) : Shaved out cands (exactPass meter limit make rows cands) := by
  induction rows generalizing cands with
  | zero => exact .refl out cands
  | succ rows ih =>
      unfold exactPass
      dsimp only
      split_ifs
      · exact .refl out cands
      · exact (shaveExcess_shaved out _ _ cands).trans (ih _)

theorem build_cleared {cands : List BoundCandidate} (empty : rowsLeft cands = 0) :
    build out limit hasSummary resumable cands =
      build out limit hasSummary resumable (cands.map cleared) := by
  unfold build
  induction cands generalizing out with
  | nil => rfl
  | cons c rest ih =>
      simp only [rowsLeft, List.map_cons, List.sum_cons, Nat.add_eq_zero_iff] at empty
      have same : cleared c = { c with bytes := 0 } := by simp [cleared, empty.1]
      rw [List.map_cons, List.foldl_cons, List.foldl_cons, ih _ empty.2, same]
      rfl

variable {meter out limit hasSummary resumable}

theorem exactPass_ends {rows : Nat} {cands : List BoundCandidate} (enough : rowsLeft cands ≤ rows)
    (emptied : (meter.textSize (build out limit hasSummary resumable
      (cands.map cleared))).getD 0 ≤ limit) :
    Measuring meter limit (build out limit hasSummary resumable) cands
      (exactPass meter limit (build out limit hasSummary resumable) rows cands) := by
  induction rows generalizing cands with
  | zero =>
      refine .done ?_
      rw [build_cleared out limit hasSummary resumable (Nat.le_zero.mp enough)]
      exact emptied
  | succ rows ih =>
      unfold exactPass
      dsimp only
      split_ifs with fits
      · exact .done fits
      · have shaved := shaveExcess_shaved out (rowsLeft cands)
          ((meter.textSize (build out limit hasSummary resumable cands)).getD 0 - limit : Int) cands
        refine .turn fits (shaveExcess_ends _ le_rfl) (ih ?_ (by rw [shaved.cleared]; exact emptied))
        cases left : rowsLeft cands with
        | zero =>
            rw [build_cleared out limit hasSummary resumable left] at fits
            exact absurd emptied fits
        | succ n =>
            have less := shaveExcess_progress n cands
              (show ¬ ((meter.textSize (build out limit hasSummary resumable cands)).getD 0 -
                limit : Int) ≤ 0 by omega)
            omega

theorem emptied_eq (cands : List BoundCandidate) :
    build out limit hasSummary resumable (cands.map fun c => { c with keep := 0 }) =
      build out limit hasSummary resumable (cands.map cleared) := by
  have empty : rowsLeft (cands.map fun c => { c with keep := 0 }) = 0 := by
    induction cands with
    | nil => rfl
    | cons c rest ih => simpa [rowsLeft] using ih
  rw [build_cleared _ _ _ _ empty, List.map_map]
  rfl

/-- From a result whose emptied form fits, both passes run to their end. -/
theorem passes_end {size n : Nat} {cands : List BoundCandidate}
    (emptied : meter.textSize (build out limit hasSummary resumable
      (cands.map fun c => { c with keep := 0 })) = some n) (fits : n ≤ limit) :
    ∃ first, Shaving (size - limit) cands first ∧
      Measuring meter limit (build out limit hasSummary resumable) first
        (exactPass meter limit (build out limit hasSummary resumable)
          (rowsLeft (shaveExcess (rowsLeft cands) (size - limit : Int) cands))
          (shaveExcess (rowsLeft cands) (size - limit : Int) cands)) := by
  refine ⟨_, shaveExcess_ends _ le_rfl, exactPass_ends le_rfl ?_⟩
  rw [(shaveExcess_shaved out _ _ _).cleared, ← emptied_eq, emptied]
  exact fits

theorem trimmedStep_data (c : BoundCandidate) (limit : Nat) (hasSummary resumable : Bool) :
    (trimmedStep c limit hasSummary resumable).arr? "data" = some (c.items.take c.keep) := by
  simp [trimmedStep, Object.arr?, Assoc.lookup_put, Value.arr?]

variable (out limit hasSummary resumable) in
def Trimmed (id : String) (v : Option Value) : Prop :=
  v = out.lookup id ∨ ∃ c, Drawn out c ∧ c.id = id ∧ c.keep < c.items.length ∧
    v = some (.obj (trimmedStep c limit hasSummary (resumable id)))

theorem build_trimmed {cands : List BoundCandidate} (drawn : ∀ c ∈ cands, Drawn out c)
    (id : String) :
    Trimmed out limit hasSummary resumable id
      ((build out limit hasSummary resumable cands).lookup id) := by
  have folded : ∀ cp : Object, Trimmed out limit hasSummary resumable id (cp.lookup id) →
      Trimmed out limit hasSummary resumable id ((cands.foldl (fun cp c =>
        if c.keep < c.items.length then
          Assoc.put c.id (.obj (trimmedStep c limit hasSummary (resumable c.id))) cp
        else cp) cp).lookup id) := by
    induction cands with
    | nil => exact fun _ start => start
    | cons c rest ih =>
        intro cp start
        refine ih (fun d member => drawn d (.tail _ member)) _ ?_
        dsimp only
        split_ifs with cut
        · rw [Assoc.lookup_put]
          split_ifs with here
          · subst here
            exact .inr ⟨c, drawn c (.head _), rfl, cut, rfl⟩
          · exact start
        · exact start
  exact folded out (.inl rfl)

end Exact

section Response

variable (meter : Meter) (strategy : ResultStrategy) (resumable : String → Bool) (out : Object)
  (size limit : Nat)

theorem boundResponse_trimmed (id : String) :
    Trimmed out limit (decide (strategy.strategy = "postProcess")) resumable id
      ((boundResponse meter strategy resumable out size limit).1.lookup id) := by
  unfold boundResponse
  dsimp only
  split_ifs
  · exact .inl rfl
  · exact .inl rfl
  · refine build_trimmed ?_ id
    refine ((shaveExcess_shaved out _ _ _).trans (exactPass_shaved meter out limit _ _ _)).drawn ?_
    exact candidates_drawn meter out _

end Response

end BrokerMcp.Proof.Composite
