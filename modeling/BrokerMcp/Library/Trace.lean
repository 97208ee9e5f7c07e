import BrokerMcp.Library.Counting

/-!
# Runs of a transition function

A system is a partial function from a state and an action to the next state. A run records, for
each step, the state it was taken in and the action. `exec` performs a list of actions and `trace`
is the run it makes.
-/

namespace Transition

variable {σ α : Type*} {step : σ → α → Option σ}

inductive Run (step : σ → α → Option σ) : σ → List (σ × α) → σ → Prop where
  | nil {s : σ} : Run step s [] s
  | cons {s t u : σ} {a : α} {history : List (σ × α)} :
      step s a = some t → Run step t history u → Run step s ((s, a) :: history) u

theorem Run.single {s t : σ} {a : α} (taken : step s a = some t) : Run step s [(s, a)] t :=
  .cons taken .nil

theorem Run.taken {s t : σ} {history : List (σ × α)} (run : Run step s history t) {p : σ × α}
    (member : p ∈ history) : ∃ next, step p.1 p.2 = some next := by
  induction run with
  | nil => cases member
  | cons taken _ ih =>
      rcases List.mem_cons.mp member with rfl | later
      · exact ⟨_, taken⟩
      · exact ih later

/-- The induction rule for invariants: what holds at the start and survives each step holds at the
end, and in every state a step was taken in. -/
theorem Run.invariant {motive : σ → Prop} {s t : σ} {history : List (σ × α)}
    (run : Run step s history t) (start : motive s)
    (preserved : ∀ s a t, motive s → step s a = some t → motive t) :
    motive t ∧ ∀ p ∈ history, motive p.1 := by
  induction run with
  | nil => exact ⟨start, by simp⟩
  | cons taken _ ih =>
      obtain ⟨final, visited⟩ := ih (preserved _ _ _ start taken)
      refine ⟨final, ?_⟩
      rintro p (_ | ⟨_, member⟩)
      · exact start
      · exact visited p member

theorem Run.invariant_of {motive : σ → Prop} {Meets : σ × α → Prop} {s t : σ}
    {history : List (σ × α)} (run : Run step s history t) (meets : ∀ p ∈ history, Meets p)
    (start : motive s) (preserved : ∀ s a t, motive s → Meets (s, a) → step s a = some t → motive t) :
    motive t := by
  induction run with
  | nil => exact start
  | cons taken _ ih =>
      have first := preserved _ _ _ start (meets _ List.mem_cons_self) taken
      exact ih (fun p member => meets p (List.mem_cons_of_mem _ member)) first

/-- Accounting along a run: if each step pays for what it spends out of a potential, the whole run
does. -/
theorem Run.potential {spends earns : σ × α → Bool} {held : σ → Nat} {Inv : σ → Prop}
    {s t : σ} {history : List (σ × α)} (run : Run step s history t) (start : Inv s)
    (preserved : ∀ s a t, Inv s → step s a = some t → Inv t)
    (pays : ∀ s a t, Inv s → step s a = some t →
      (spends (s, a)).toNat + held t ≤ held s + (earns (s, a)).toNat) :
    history.countP spends + held t ≤ held s + history.countP earns := by
  induction run with
  | nil => simp
  | @cons s t u a history taken _ ih =>
      have first := pays s a t start taken
      have rest := ih (preserved _ _ _ start taken)
      rw [Counting.countP_cons_toNat, Counting.countP_cons_toNat]
      omega

theorem Run.collects {β : Type*} {log : σ → List β} {emits : σ × α → List β} {Inv : σ → Prop}
    {s t : σ} {history : List (σ × α)} (run : Run step s history t) (start : Inv s)
    (preserved : ∀ s a t, Inv s → step s a = some t → Inv t)
    (adds : ∀ s a t, Inv s → step s a = some t → log t = log s ++ emits (s, a)) :
    log t = log s ++ history.flatMap emits := by
  induction run with
  | nil => rw [List.flatMap_nil, List.append_nil]
  | cons taken _ ih =>
      rw [ih (preserved _ _ _ start taken), adds _ _ _ start taken, List.flatMap_cons,
        List.append_assoc]

/-- What holds at the end held at the start, or a step has brought it about. -/
theorem Run.origin {motive : σ → Prop} {Makes : σ × α → Prop} {s t : σ} {history : List (σ × α)}
    (run : Run step s history t) (final : motive t)
    (traced : ∀ s a t, step s a = some t → motive t → motive s ∨ Makes (s, a)) :
    motive s ∨ ∃ p ∈ history, Makes p := by
  induction run with
  | nil => exact .inl final
  | cons taken _ ih =>
      rcases ih final with before | ⟨p, member, made⟩
      · apply (traced _ _ _ taken before).imp_right
        intro made
        exact ⟨_, List.mem_cons_self, made⟩
      · exact .inr ⟨p, List.mem_cons_of_mem _ member, made⟩

theorem Run.refines {τ : Type*} {step' : τ → α → Option τ} {read : σ → τ} (Inv : σ → Prop) {s t : σ}
    {history : List (σ × α)} (run : Run step s history t) (start : Inv s)
    (preserved : ∀ s a t, Inv s → step s a = some t → Inv t)
    (commutes : ∀ s a t, Inv s → step s a = some t → step' (read s) a = some (read t)) :
    Run step' (read s) (history.map fun p => (read p.1, p.2)) (read t) := by
  induction run with
  | nil => exact .nil
  | cons taken _ ih =>
      rw [List.map_cons]
      exact .cons (commutes _ _ _ start taken) (ih (preserved _ _ _ start taken))

theorem Run.split {s t : σ} {before after : List (σ × α)} (run : Run step s (before ++ after) t) :
    ∃ middle, Run step s before middle ∧ Run step middle after t := by
  induction before generalizing s with
  | nil => exact ⟨s, .nil, run⟩
  | cons p before ih =>
      cases run with
      | cons taken rest =>
          obtain ⟨middle, first, second⟩ := ih rest
          exact ⟨middle, .cons taken first, second⟩

theorem Run.cut {s t : σ} {history : List (σ × α)} (run : Run step s history t) {p : σ × α}
    (member : p ∈ history) :
    ∃ before after next, history = before ++ p :: after ∧ Run step s before p.1 ∧
      step p.1 p.2 = some next ∧ Run step next after t := by
  obtain ⟨before, after, rfl⟩ := List.append_of_mem member
  obtain ⟨middle, first, second⟩ := run.split
  cases second with
  | cons taken rest => exact ⟨before, after, _, rfl, first, taken, rest⟩

theorem Run.append {s t u : σ} {before after : List (σ × α)} (first : Run step s before t)
    (second : Run step t after u) : Run step s (before ++ after) u := by
  induction first with
  | nil => exact second
  | cons taken _ ih => exact .cons taken (ih second)

def exec (step : σ → α → Option σ) : σ → List α → Option σ
  | s, [] => some s
  | s, a :: actions => (step s a).bind fun t => exec step t actions

def trace (step : σ → α → Option σ) : σ → List α → List (σ × α)
  | _, [] => []
  | s, a :: actions => (s, a) :: ((step s a).elim [] fun t => trace step t actions)

theorem run_of_exec {s t : σ} {actions : List α} (done : exec step s actions = some t) :
    Run step s (trace step s actions) t := by
  induction actions generalizing s with
  | nil =>
      obtain rfl : s = t := by simpa [exec] using done
      exact .nil
  | cons a actions ih =>
      obtain ⟨next, taken, rest⟩ := Option.bind_eq_some_iff.mp done
      rw [trace, taken, Option.elim_some]
      exact .cons taken (ih rest)

theorem action_of_mem_trace {s : σ} {actions : List α} {p : σ × α} (member : p ∈ trace step s actions) :
    p.2 ∈ actions := by
  induction actions generalizing s with
  | nil => exact absurd member List.not_mem_nil
  | cons a actions ih =>
      rw [trace] at member
      rcases List.mem_cons.mp member with rfl | later
      · exact List.mem_cons_self
      · cases taken : step s a with
        | none => simp [taken] at later
        | some t =>
            rw [taken, Option.elim_some] at later
            exact List.mem_cons_of_mem a (ih later)

end Transition
