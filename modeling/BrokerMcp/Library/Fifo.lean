import BrokerMcp.Library.Trace
import Mathlib.Data.List.Rotate

namespace Fifo

open Transition

variable {α : Type*} [DecidableEq α]

inductive Call (α : Type*) where
  | insert (key : α)
  | remove (key : α)
  | advancePast (index : Nat)
  deriving DecidableEq

def Call.serves : Call α → Bool
  | .advancePast _ => true
  | _ => false

def step (line : List α) : Call α → Option (List α)
  | .insert key => if key ∈ line then none else some (line ++ [key])
  | .remove key => some (line.erase key)
  | .advancePast index => if index < line.length then some (line.rotate (index + 1)) else none

theorem step_nodup {line next : List α} {call : Call α} (nodup : line.Nodup)
    (taken : step line call = some next) : next.Nodup := by
  cases call with
  | insert key =>
      obtain ⟨fresh, rfl⟩ : key ∉ line ∧ line ++ [key] = next := by simpa [step] using taken
      simpa using nodup.concat fresh
  | remove key =>
      obtain rfl : line.erase key = next := by simpa [step] using taken
      exact nodup.erase key
  | advancePast index =>
      obtain ⟨-, rfl⟩ : index < line.length ∧ line.rotate (index + 1) = next := by
        simpa [step] using taken
      exact List.nodup_rotate.mpr nodup

def Before (a b : α) (line : List α) : Prop :=
  line.idxOf a < line.idxOf b

theorem before_cons {a b k : α} {line : List α} :
    Before a b (k :: line) ↔ b ≠ k ∧ (a = k ∨ Before a b line) := by
  unfold Before
  by_cases second : b = k
  · simp [second]
  · by_cases first : a = k
    · simp [first, second, List.idxOf_cons_ne _ (Ne.symm second)]
    · rw [List.idxOf_cons_ne _ (Ne.symm second), List.idxOf_cons_ne _ (Ne.symm first)]
      simp [first, second]

theorem before_append {a b k : α} {line : List α} (here : a ∈ line) (there : b ∈ line) :
    Before a b (line ++ [k]) ↔ Before a b line := by
  simp [Before, List.idxOf_append, here, there]

theorem before_erase {a b k : α} {line : List α} (first : a ≠ k) (second : b ≠ k) :
    Before a b (line.erase k) ↔ Before a b line := by
  induction line with
  | nil => rfl
  | cons m line ih =>
      by_cases same : m = k
      · rw [same, List.erase_cons_head, before_cons]
        simp [first, second]
      · rw [List.erase_cons_tail (by simpa using same), before_cons, before_cons, ih]

theorem step_order {line next : List α} {call : Call α} {a b : α} (nodup : line.Nodup)
    (taken : step line call = some next) (idle : call.serves = false)
    (here : a ∈ line ∧ b ∈ line) (there : a ∈ next ∧ b ∈ next) :
    Before a b next ↔ Before a b line := by
  cases call with
  | insert key =>
      obtain ⟨-, rfl⟩ : key ∉ line ∧ line ++ [key] = next := by simpa [step] using taken
      exact before_append here.1 here.2
  | remove key =>
      obtain rfl : line.erase key = next := by simpa [step] using taken
      have gone : key ∉ line.erase key := nodup.not_mem_erase
      apply before_erase
      · exact fun same => gone (same ▸ there.1)
      · exact fun same => gone (same ▸ there.2)
  | advancePast index => cases idle

theorem order_kept {line last : List α} {history : List (List α × Call α)} {a b : α}
    (run : Run step line history last) (nodup : line.Nodup)
    (idle : ∀ p ∈ history, p.2.serves = false) (present : ∀ p ∈ history, a ∈ p.1 ∧ b ∈ p.1)
    (final : a ∈ last ∧ b ∈ last) : Before a b last ↔ Before a b line := by
  induction run with
  | nil => rfl
  | @cons line middle last call history taken rest ih =>
      have stays : a ∈ middle ∧ b ∈ middle := by
        cases rest with
        | nil => exact final
        | cons _ _ => exact present _ (.tail _ (.head _))
      have first := step_order nodup taken (idle _ (.head _)) (present _ (.head _)) stays
      rw [← first]
      exact ih (step_nodup nodup taken) (fun p member => idle p (.tail _ member))
        (fun p member => present p (.tail _ member)) final

end Fifo
