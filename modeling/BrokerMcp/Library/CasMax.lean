import BrokerMcp.Library.Cells
import BrokerMcp.Library.Trace
import Mathlib.Order.MinMax

/-!
# Raising a cell by compare-and-swap

Any number of raisers share a cell. Each of them aims at a value, or gives up without one; a raiser
with a target loads the cell and stops if it holds at least the target, else it swaps the value it
loaded for the target, and loads again if the swap fails. The steps of the raisers interleave.
-/

namespace CasMax
open Transition

inductive Phase (α : Type*) where
  | entered
  | idle
  | loading (target : α)
  | loaded (target cur : α)
  | done (target now : α) (raised : Bool)

structure State (α : Type*) where
  cell : α
  raisers : List (Phase α)

inductive Action (α : Type*) where
  | enter
  | aim (i : Nat) (target : Option α)
  | load (i : Nat)
  | swap (i : Nat)

variable {α : Type*} [LinearOrder α]

def Phase.aim : Phase α → Option α → Option (Phase α)
  | .entered, some target => some (.loading target)
  | .entered, none => some .idle
  | _, _ => none

def Phase.load (cell : α) : Phase α → Option (Phase α)
  | .loading target => some (if target ≤ cell then .done target cell false else .loaded target cell)
  | _ => none

def Phase.swap (cell : α) : Phase α → Option (α × Phase α)
  | .loaded target cur =>
      some (if cell = cur then (target, .done target target true) else (cell, .loading target))
  | _ => none

def step (s : State α) : Action α → Option (State α)
  | .enter => some { s with raisers := s.raisers ++ [.entered] }
  | .aim i target => do
      let phase ← s.raisers[i]?
      let phase ← phase.aim target
      return { s with raisers := s.raisers.set i phase }
  | .load i => do
      let phase ← s.raisers[i]?
      let phase ← phase.load s.cell
      return { s with raisers := s.raisers.set i phase }
  | .swap i => do
      let phase ← s.raisers[i]?
      let (cell, phase) ← phase.swap s.cell
      return ⟨cell, s.raisers.set i phase⟩

def Phase.target? : Phase α → Option α
  | .loading target | .loaded target _ | .done target _ _ => some target
  | _ => none

def Phase.isOver : Phase α → Bool
  | .idle | .done _ _ _ => true
  | _ => false

def Phase.raised : Phase α → Bool
  | .done _ _ raised => raised
  | _ => false

def State.installs (s : State α) (i : Nat) : Prop :=
  ∃ target, s.raisers[i]? = some (.loaded target s.cell)

inductive Moves (s : State α) : Action α → State α → Prop where
  | enter : Moves s .enter { s with raisers := s.raisers ++ [.entered] }
  | aim {i : Nat} {target : Option α} (here : s.raisers[i]? = some .entered) :
      Moves s (.aim i target) { s with raisers := s.raisers.set i (target.elim .idle .loading) }
  | enough {i : Nat} {target : α} (here : s.raisers[i]? = some (.loading target))
      (reached : target ≤ s.cell) :
      Moves s (.load i) { s with raisers := s.raisers.set i (.done target s.cell false) }
  | load {i : Nat} {target : α} (here : s.raisers[i]? = some (.loading target))
      (short : s.cell < target) :
      Moves s (.load i) { s with raisers := s.raisers.set i (.loaded target s.cell) }
  | swap {i : Nat} {target : α} (here : s.raisers[i]? = some (.loaded target s.cell)) :
      Moves s (.swap i) ⟨target, s.raisers.set i (.done target target true)⟩
  | lose {i : Nat} {target cur : α} (here : s.raisers[i]? = some (.loaded target cur))
      (other : s.cell ≠ cur) :
      Moves s (.swap i) { s with raisers := s.raisers.set i (.loading target) }

theorem step_moves {s t : State α} {a : Action α} (taken : step s a = some t) : Moves s a t := by
  cases a with
  | enter =>
      obtain rfl := Option.some.inj taken
      exact .enter
  | aim i target =>
      obtain ⟨phase, here, taken⟩ := Option.bind_eq_some_iff.mp taken
      obtain ⟨next, aimed, taken⟩ := Option.bind_eq_some_iff.mp taken
      obtain rfl := Option.some.inj taken
      cases phase with
      | entered =>
          have same : next = target.elim .idle .loading := by
            cases target <;> exact (Option.some.inj aimed).symm
          subst same
          exact .aim here
      | _ => cases target <;> cases aimed
  | load i =>
      obtain ⟨phase, here, taken⟩ := Option.bind_eq_some_iff.mp taken
      obtain ⟨next, loaded, taken⟩ := Option.bind_eq_some_iff.mp taken
      obtain rfl := Option.some.inj taken
      cases phase with
      | loading target =>
          obtain rfl := Option.some.inj loaded
          split_ifs with reached
          · exact .enough here reached
          · exact .load here (not_le.mp reached)
      | _ => cases loaded
  | swap i =>
      obtain ⟨phase, here, taken⟩ := Option.bind_eq_some_iff.mp taken
      obtain ⟨⟨cell, next⟩, swapped, taken⟩ := Option.bind_eq_some_iff.mp taken
      obtain rfl := Option.some.inj taken
      cases phase with
      | loaded target cur =>
          have pair := Option.some.inj swapped
          split_ifs at pair with same
          · obtain ⟨rfl, rfl⟩ := Prod.mk.inj pair
            subst same
            exact .swap here
          · obtain ⟨rfl, rfl⟩ := Prod.mk.inj pair
            exact .lose here same
      | _ => cases swapped

theorem cell_cases {s t : State α} {a : Action α} (taken : step s a = some t) :
    t.cell = s.cell ∨ ∃ i, a = .swap i := by
  cases step_moves taken with
  | swap => exact .inr ⟨_, rfl⟩
  | _ => exact .inl rfl

theorem swap_cases {s t : State α} {i : Nat} (taken : step s (.swap i) = some t) :
    (∃ target, s.raisers[i]? = some (.loaded target s.cell) ∧ t.cell = target) ∨
      ¬ s.installs i ∧ t.cell = s.cell := by
  cases step_moves taken with
  | swap here => exact .inl ⟨_, here, rfl⟩
  | lose here other =>
      refine .inr ⟨?_, rfl⟩
      rintro ⟨target, holds⟩
      cases here.symm.trans holds
      exact other rfl

def Fits (cell : α) : Phase α → Prop
  | .loaded target cur => cur ≤ cell ∧ cur < target
  | .done target now _ => target ≤ cell ∧ target ≤ now
  | _ => True

structure Sound (start : α) (s : State α) : Prop where
  least : start ≤ s.cell
  source : s.cell = start ∨ ∃ (i : Nat) (phase : Phase α), s.raisers[i]? = some phase ∧
    phase.target? = some s.cell
  fits : ∀ (i : Nat) (phase : Phase α), s.raisers[i]? = some phase → Fits s.cell phase

theorem Fits.mono {cell cell' : α} {phase : Phase α} (fits : Fits cell phase)
    (more : cell ≤ cell') : Fits cell' phase := by
  cases phase with
  | loaded target cur => exact ⟨fits.1.trans more, fits.2⟩
  | done target now raised => exact ⟨fits.1.trans more, fits.2⟩
  | _ => trivial

theorem Moves.cell_le {start : α} {s t : State α} {a : Action α} (sound : Sound start s)
    (moves : Moves s a t) : s.cell ≤ t.cell := by
  cases moves with
  | swap here => exact (sound.fits _ _ here).2.le
  | _ => exact le_rfl

-- A raiser keeps its target, whatever it does.
theorem Moves.source {s t : State α} {a : Action α} (moves : Moves s a t) {x : α}
    (found : ∃ (i : Nat) (phase : Phase α), s.raisers[i]? = some phase ∧ phase.target? = some x) :
    ∃ (i : Nat) (phase : Phase α), t.raisers[i]? = some phase ∧ phase.target? = some x := by
  obtain ⟨j, phase, there, target⟩ := found
  have kept {i : Nat} {old new : Phase α} (here : s.raisers[i]? = some old)
      (same : old.target? = some x → new.target? = some x) :
      ∃ (k : Nat) (phase : Phase α), (s.raisers.set i new)[k]? = some phase ∧
        phase.target? = some x := by
    by_cases moved : j = i
    · subst moved
      obtain rfl := Option.some.inj (here.symm.trans there)
      exact ⟨j, new, by rw [Cells.getElem?_set_of_some here, if_pos rfl], same target⟩
    · exact ⟨j, phase, by rw [Cells.getElem?_set_of_some here, if_neg moved, there], target⟩
  cases moves with
  | enter =>
      refine ⟨j, phase, ?_, target⟩
      rw [Cells.getElem?_snoc, if_neg (Nat.ne_of_lt (Cells.lt_of_some there)), there]
  | aim here => exact kept here nofun
  | enough here _ => exact kept here id
  | load here _ => exact kept here id
  | swap here => exact kept here id
  | lose here _ => exact kept here id

theorem Moves.sound {start : α} {s t : State α} {a : Action α} (sound : Sound start s)
    (moves : Moves s a t) : Sound start t := by
  have more := moves.cell_le sound
  have others : ∀ (i : Nat) (phase : Phase α), s.raisers[i]? = some phase → Fits t.cell phase :=
    fun i phase here => (sound.fits i phase here).mono more
  have source := moves.source (x := s.cell)
  refine ⟨sound.least.trans more, ?_, ?_⟩
  · cases moves with
    | @swap i target here =>
        refine .inr ⟨i, .done target target true, ?_, rfl⟩
        rw [Cells.getElem?_set_of_some here, if_pos rfl]
    | _ => exact sound.source.imp_right source
  · cases moves with
    | enter => exact Cells.forall_snoc others trivial
    | @aim i target here =>
        refine Cells.forall_set here others ?_
        cases target <;> trivial
    | enough here reached => exact Cells.forall_set here others ⟨reached, reached⟩
    | load here short => exact Cells.forall_set here others ⟨le_rfl, short⟩
    | swap here => exact Cells.forall_set here others ⟨le_rfl, le_rfl⟩
    | lose here _ => exact Cells.forall_set here others trivial

def targets (s : State α) : List α := s.raisers.filterMap Phase.target?

theorem Sound.mem {start : α} {s : State α} (sound : Sound start s) :
    s.cell ∈ start :: targets s := by
  rcases sound.source with same | ⟨i, phase, here, target⟩
  · rw [same]
    exact .head _
  · exact .tail _ (List.mem_filterMap.mpr ⟨phase, List.mem_of_getElem? here, target⟩)

theorem foldr_max_mem_le (start : α) (xs : List α) :
    xs.foldr max start ∈ start :: xs ∧ ∀ x ∈ start :: xs, x ≤ xs.foldr max start := by
  induction xs with
  | nil => simp
  | cons y xs ih =>
      obtain ⟨member, bound⟩ := ih
      rw [List.foldr_cons]
      constructor
      · rcases max_choice y (xs.foldr max start) with own | rest
        · rw [own]
          simp
        · rw [rest]
          rcases List.mem_cons.mp member with same | later
          · rw [same]
            exact .head _
          · exact .tail _ (.tail _ later)
      · intro x member
        rcases List.mem_cons.mp member with rfl | member
        · exact (bound _ (.head _)).trans (le_max_right _ _)
        · rcases List.mem_cons.mp member with rfl | later
          · exact le_max_left _ _
          · exact (bound x (.tail _ later)).trans (le_max_right _ _)

/-- Once every raiser is through, the cell is the maximum of its first value and the targets. -/
theorem Sound.eq_max {start : α} {s : State α} (sound : Sound start s)
    (through : ∀ phase ∈ s.raisers, phase.isOver = true) :
    s.cell = (targets s).foldr max start := by
  obtain ⟨member, bound⟩ := foldr_max_mem_le start (targets s)
  refine le_antisymm (bound _ sound.mem) ?_
  rcases List.mem_cons.mp member with same | reached
  · rw [same]
    exact sound.least
  · obtain ⟨phase, there, target⟩ := List.mem_filterMap.mp reached
    obtain ⟨i, here⟩ := List.getElem?_of_mem there
    have fits := sound.fits i phase here
    have ended := through phase there
    cases phase with
    | done goal now raised =>
        obtain rfl := Option.some.inj target
        exact fits.1
    | idle => cases target
    | _ => cases ended

theorem Moves.raised_iff {s t : State α} {a : Action α} (moves : Moves s a t) (j : Nat) :
    (t.raisers[j]?.any Phase.raised = true) ↔
      s.raisers[j]?.any Phase.raised = true ∨ ∃ i, a = .swap i ∧ i = j ∧ s.installs i := by
  have kept {i : Nat} {old : Phase α} (new : Phase α) (here : s.raisers[i]? = some old)
      (same : new.raised = old.raised) :
      (s.raisers.set i new)[j]?.any Phase.raised = s.raisers[j]?.any Phase.raised := by
    rw [Cells.getElem?_set_of_some here]
    split_ifs with moved
    · rw [moved, here]
      exact same
    · rfl
  cases moves with
  | enter =>
      rw [Cells.getElem?_snoc]
      split_ifs with last
      · simp [last, Phase.raised]
      · simp
  | @aim i target here =>
      rw [kept _ here (by cases target <;> rfl)]
      simp
  | enough here _ =>
      rw [kept _ here (by rfl)]
      simp
  | load here _ =>
      rw [kept _ here (by rfl)]
      simp
  | @swap i target here =>
      rw [Cells.getElem?_set_of_some here]
      split_ifs with moved
      · subst moved
        simp only [Option.any_some, Phase.raised, true_iff]
        exact .inr ⟨_, rfl, rfl, target, here⟩
      · refine ⟨.inl, ?_⟩
        rintro (before | ⟨k, same, rfl, -⟩)
        · exact before
        · cases same
          exact absurd rfl moved
  | @lose i target cur here other =>
      rw [kept _ here (by rfl)]
      refine ⟨.inl, ?_⟩
      rintro (before | ⟨k, same, rfl, goal, holds⟩)
      · exact before
      · cases same
        cases here.symm.trans holds
        exact absurd rfl other

def raise (target : α) : List α → α → α
  | [], cur => if target ≤ cur then cur else target
  | next :: later, cur => if target ≤ cur then cur else raise target later next

def loads (i : Nat) : State α × Action α → Option α
  | (s, .load j) => if j = i then some s.cell else none
  | _ => none

/-- The loop still has to load `values` from this phase on, and then leaves `now` in the cell. -/
def Leaves (values : List α) (now : α) : Phase α → Prop
  | .loading target => ∃ cur rivals, values = cur :: rivals ∧ now = raise target rivals cur
  | .loaded target cur => now = raise target values cur
  | .done _ reached _ => values = [] ∧ now = reached
  | _ => True

theorem Moves.keeps {s t : State α} {a : Action α} (moves : Moves s a t) {i : Nat} {phase : Phase α}
    (here : s.raisers[i]? = some phase) : ∃ phase', t.raisers[i]? = some phase' := by
  have inside := Cells.lt_of_some here
  have more : s.raisers.length ≤ t.raisers.length := by
    cases moves <;> simp
  exact ⟨_, List.getElem?_eq_getElem (inside.trans_le more)⟩

theorem Moves.leaves {start : α} {s t : State α} {a : Action α} (sound : Sound start s)
    (moves : Moves s a t) {i : Nat} {phase phase' : Phase α} (here : s.raisers[i]? = some phase)
    (there : t.raisers[i]? = some phase') {values : List α} {now : α}
    (later : Leaves values now phase') : Leaves ((loads i (s, a)).toList ++ values) now phase := by
  -- A step of another raiser changes nothing, and one of this raiser is the loop at that point.
  have other {j : Nat} {old new : Phase α} (held : s.raisers[j]? = some old)
      (moved : (s.raisers.set j new)[i]? = some phase') (differs : i ≠ j) : phase' = phase := by
    rw [Cells.getElem?_set_of_some held, if_neg differs, here] at moved
    exact (Option.some.inj moved).symm
  have own {old new : Phase α} (held : s.raisers[i]? = some old)
      (moved : (s.raisers.set i new)[i]? = some phase') : phase = old ∧ phase' = new := by
    rw [Cells.getElem?_set_of_some held, if_pos rfl] at moved
    exact ⟨Option.some.inj (here.symm.trans held), (Option.some.inj moved).symm⟩
  cases moves with
  | enter =>
      rw [Cells.getElem?_snoc, if_neg (Nat.ne_of_lt (Cells.lt_of_some here)), here] at there
      obtain rfl := Option.some.inj there
      exact later
  | @aim j target held =>
      by_cases same : i = j
      · subst same
        obtain ⟨rfl, -⟩ := own held there
        trivial
      · obtain rfl := other held there same
        exact later
  | @enough j target held reached =>
      by_cases same : i = j
      · subst same
        obtain ⟨rfl, rfl⟩ := own held there
        obtain ⟨rfl, rfl⟩ := later
        refine ⟨s.cell, [], by simp [loads], ?_⟩
        rw [raise, if_pos reached]
      · obtain rfl := other held there same
        simpa [loads, Ne.symm same] using later
  | @load j target held short =>
      by_cases same : i = j
      · subst same
        obtain ⟨rfl, rfl⟩ := own held there
        exact ⟨s.cell, values, by simp [loads], later⟩
      · obtain rfl := other held there same
        simpa [loads, Ne.symm same] using later
  | @swap j target held =>
      by_cases same : i = j
      · subst same
        obtain ⟨rfl, rfl⟩ := own held there
        obtain ⟨rfl, rfl⟩ := later
        have short := (sound.fits _ _ held).2
        show now = raise now [] s.cell
        rw [raise, if_neg (not_le.mpr short)]
      · obtain rfl := other held there same
        exact later
  | @lose j target cur held changed =>
      by_cases same : i = j
      · subst same
        obtain ⟨rfl, rfl⟩ := own held there
        obtain ⟨next, rivals, rfl, reached⟩ := later
        have short := (sound.fits _ _ held).2
        show now = raise target (next :: rivals) cur
        rw [raise, if_neg (not_le.mpr short), reached]
      · obtain rfl := other held there same
        exact later

end CasMax
